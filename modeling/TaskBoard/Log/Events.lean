import TaskBoard.Log.Record
import TaskBoard.Service

/-!
# Log events

What the service writes to its log: the failures that the cache works around, and each response
with an error status.
-/

namespace TaskBoard

open Log

namespace Cache

def keyFields (key : Key) (reason : String) : List (String × Log.Value) :=
  [("key", .shown (String.ofList key.text)), ("error", .shown reason)]

/-- The record of an event of the cache. What goes well is not recorded. -/
def Event.record? : Event → Option Record
  | hit | miss | stored | invalidated _ => none
  | lookupFailed key e =>
    some ⟨.warn, "cache lookup failed, treating as miss", keyFields key e.message⟩
  | bodyFailed key reason =>
    some ⟨.warn, "response body failed, not caching", keyFields key reason⟩
  | storingFailed key e => some ⟨.warn, "failed to cache response", keyFields key e.message⟩
  | listingFailed pattern e =>
    some ⟨.warn, "failed to enumerate keys for invalidation",
      [("pattern", .shown (String.ofList pattern.text)), ("error", .shown e.message)]⟩
  | deletionFailed key e => some ⟨.warn, "failed to delete cache key", keyFields key e.message⟩

end Cache

namespace Service

open Http

/-- The record of a response with an error status. One without a report says so. -/
def errorRecord (r : Request) (status : Nat) (report : Option Report) : Record :=
  let messages := (report.map (·.messages)).getD []
  let isOurs := status ≥ 500
  { level := if isOurs then .error else .warn
    message := if isOurs then "request failed" else "client request rejected"
    fields := [
      ("status", .number status),
      ("method", .shown r.method.name),
      ("path", .shown (String.ofList r.uri.path)),
      ("query", .text (String.ofList (r.uri.query.getD []))),
      ("source", .text ((report.map (·.source)).getD "unknown")),
      ("detail", .text (messages.head?.getD "no diagnostic available")),
      ("chain", Log.chain messages),
      ("user_id", .text (String.ofList (r.callerText.getD [])))] }

def Event.record? : Event → Option Record
  | cache e => e.record?
  | errorResponse r status report => some (errorRecord r status report)

end Service

end TaskBoard
