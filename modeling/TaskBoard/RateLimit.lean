import TaskBoard.Text.Numeral
import TaskBoard.Time.Duration

/-!
# The rate limiter

A sliding window over the admitted requests. A request is admitted if fewer than the allowed number
were admitted within the window before it.
-/

namespace TaskBoard

open Time

namespace RateLimit

structure Settings where
  window : Duration
  maxRequests : Nat
deriving DecidableEq, Repr

/-- The times of the admitted requests that may still count, oldest first. -/
abbrev Admissions := List Instant

inductive Verdict where
  | admitted (remaining : Nat)
  | refused
deriving DecidableEq, Repr

/-- Whether an admission at `t` still counts. -/
def counts (window : Duration) (now t : Instant) : Bool := now - t < window

/-- Decides on a request, after the oldest admissions that no longer count are dropped. -/
def allow (settings : Settings) (now : Instant) (admissions : Admissions) : Verdict × Admissions :=
  let recent := admissions.dropWhile (!counts settings.window now ·)
  if recent.length < settings.maxRequests then
    (.admitted (settings.maxRequests - recent.length - 1), recent ++ [now])
  else (.refused, recent)

/-- How many seconds a refused client is asked to wait. -/
def retryAfter (settings : Settings) : Nat := max settings.window.wholeSeconds 1

end RateLimit

end TaskBoard
