import TaskBoard.Cache.Memory
import TaskBoard.Config.Settings
import TaskBoard.Remote.Store

/-!
# Open stores

A store that has been opened as the settings say: in memory, or on a remote server.
-/

namespace TaskBoard

open Cache Time

/-- An open store. A remote one has states in `σ`. -/
inductive OpenStore (σ : Type) where
  | memory (entries : Memory)
  | remote (server : Remote.Server σ) (timeout : Duration) (state : σ)

namespace OpenStore

variable {σ : Type}

def store (now : Instant) : Cache.Store (OpenStore σ) := fun c s =>
  match s with
  | memory entries =>
    let (reply, entries) := Memory.store now c entries
    (reply, memory entries)
  | remote server timeout state =>
    let (reply, state) := Remote.store server timeout c state
    (reply, remote server timeout state)

/-- Opens the store that settings name. One in memory is empty. -/
def ofSettings (network : Remote.Network σ) (state : σ) (s : Config.StoreSettings) :
    Except StoreError (OpenStore σ) :=
  match s.backend with
  | .memory => .ok (memory [])
  | .redis =>
    match Remote.connect network s.url s.timeout state with
    | (.ok server, state) => .ok (remote server s.timeout state)
    | (.error e, _) => .error e

end OpenStore

end TaskBoard
