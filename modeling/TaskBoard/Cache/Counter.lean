import TaskBoard.Cache.Overlay

/-!
# Cache counters

The counters that the overlay keeps, as sums over what it reports.
-/

namespace TaskBoard.Cache

inductive Operation where
  | get
  | set
  | keysMatching
  | delete
deriving DecidableEq, Repr

def Operation.name : Operation → String
  | get => "get"
  | set => "set"
  | keysMatching => "keys_matching"
  | delete => "delete"

inductive Counter where
  | hits
  | misses
  | stored
  | invalidatedKeys
  | storeErrors (operation : Operation)
deriving DecidableEq, Repr

namespace Counter

def name : Counter → String
  | hits => "taskdeck_cache_hit_total"
  | misses => "taskdeck_cache_miss_total"
  | stored => "taskdeck_cache_store_total"
  | invalidatedKeys => "taskdeck_cache_invalidated_keys_total"
  | storeErrors _ => "taskdeck_cache_store_error_total"

/-- The value of the label `op`, for a counter that has it. -/
def operation? : Counter → Option Operation
  | storeErrors operation => some operation
  | hits | misses | stored | invalidatedKeys => none

def all : List Counter :=
  [hits, misses, stored, invalidatedKeys, storeErrors .get, storeErrors .set,
    storeErrors .keysMatching, storeErrors .delete]

end Counter

/-- The counter that an event moves, and by how much. A body that fails moves none. -/
def Event.increment? : Event → Option (Counter × Nat)
  | hit => some (.hits, 1)
  | miss => some (.misses, 1)
  | stored => some (.stored, 1)
  | lookupFailed .. => some (.storeErrors .get, 1)
  | bodyFailed .. => none
  | storingFailed .. => some (.storeErrors .set, 1)
  | listingFailed .. => some (.storeErrors .keysMatching, 1)
  | deletionFailed .. => some (.storeErrors .delete, 1)
  | invalidated count => some (.invalidatedKeys, count)

def Event.adds (counter : Counter) (event : Event) : Nat :=
  match event.increment? with
  | some (c, n) => if c = counter then n else 0
  | none => 0

def Counter.total (counter : Counter) (events : List Event) : Nat :=
  (events.map (Event.adds counter)).foldr (· + ·) 0

end TaskBoard.Cache
