import AlonSentinel.Api.RequestContext
import AlonSentinel.Foundation.KeyedTable
import AlonSentinel.Foundation.StdDuration

/-! The rate limiter of the API. It counts the requests of each address in each bucket, and every
256th request sweeps out the entries whose window is over.
-/

namespace AlonSentinel.Api

open KeyedTable
open StdTime

structure AuthRateLimitEntry where
  windowStartedAt : Instant
  requestCount : Nat
  deriving DecidableEq

structure AuthRateLimiter where
  maxRequests : Nat
  window : Duration
  entries : Table (AuthRateLimitKey × AuthRateLimitEntry) Prod.fst
  requestCounter : UInt64

namespace AuthRateLimiter

def new (maxRequests : Nat) (window : Duration) : AuthRateLimiter where
  maxRequests := maxRequests
  window := window
  entries := .empty
  requestCounter := 0

/-- The entries that a request finds. The counter wraps around. -/
def sweep (limiter : AuthRateLimiter) (now : Instant)
    : Table (AuthRateLimitKey × AuthRateLimitEntry) Prod.fst :=
  if limiter.requestCounter % 256 = 0 then
    limiter.entries.select fun (_, entry) =>
      durationSince now entry.windowStartedAt < limiter.window
  else limiter.entries

/-- The entry a request is counted on: a new one if there was none, or if its window is over. -/
def currentEntry (limiter : AuthRateLimiter) (now : Instant) (found : Option AuthRateLimitEntry)
    : AuthRateLimitEntry :=
  let entry := found.getD { windowStartedAt := now, requestCount := 0 }
  if limiter.window ≤ durationSince now entry.windowStartedAt then
    { windowStartedAt := now, requestCount := 0 }
  else entry

def count (limiter : AuthRateLimiter) (now : Instant) (found : Option AuthRateLimitEntry)
    : Bool × AuthRateLimitEntry :=
  let entry := limiter.currentEntry now found
  if limiter.maxRequests ≤ entry.requestCount then (false, entry)
  else (true, { entry with requestCount := entry.requestCount + 1 })

def check (limiter : AuthRateLimiter) (now : Instant) (bucket ipAddress : String)
    : Bool × AuthRateLimiter :=
  let key : AuthRateLimitKey := { bucket, ipAddress }
  let entries := limiter.sweep now
  let (accepted, entry) := limiter.count now ((entries.find? key).map Prod.snd)
  (accepted,
    { limiter with
      entries := entries.upsert (key, entry) (fun _ => (key, entry)) fun _ _ => rfl
      requestCounter := limiter.requestCounter + 1 })

end AuthRateLimiter

/-- One request that is checked. -/
structure RateLimitedCall where
  key : AuthRateLimitKey
  now : Instant
  deriving DecidableEq

def AuthRateLimiter.checkCall (limiter : AuthRateLimiter) (call : RateLimitedCall)
    : Bool × AuthRateLimiter :=
  limiter.check call.now call.key.bucket call.key.ipAddress

end AlonSentinel.Api
