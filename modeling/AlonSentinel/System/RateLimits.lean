import Mathlib.Algebra.Order.Group.Nat
import AlonSentinel.Api.RateLimit
import AlonSentinel.Foundation.FixedWindow

/-! The rate limiter against a fixed-window counter for every address and bucket. The counters keep
all of their windows, and the limiter sweeps out those that are over.
-/

namespace AlonSentinel.System

open Api
open FixedWindow
open KeyedAutomata
open KeyedTable
open StdTime

------------------------------------------------------------
-- Windows of the limiter
------------------------------------------------------------

def windowOf (entry : AuthRateLimitEntry) : Window Instant :=
  ⟨entry.windowStartedAt, entry.requestCount⟩

/-- The windows of a table of entries. -/
def windowsOf (entries : Table (AuthRateLimitKey × AuthRateLimitEntry) Prod.fst)
    (key : AuthRateLimitKey)
    : Option (Window Instant) :=
  (entries.find? key).map fun entry => windowOf entry.2

/-- Counters for every address and bucket that share nothing and forget nothing. -/
def plainCounters (maxRequests : Nat) (window : Duration)
    : (AuthRateLimitKey → Option (Window Instant))
      → RateLimitedCall
      → Bool × (AuthRateLimitKey → Option (Window Instant)) :=
  each (counter maxRequests window.nanos RateLimitedCall.now) RateLimitedCall.key

variable {limiter : AuthRateLimiter} {call : RateLimitedCall}

/-- A sweep drops windows that are over. -/
theorem windowsOf_sweep (positive : 0 < limiter.window.nanos) (now : Instant)
    (key : AuthRateLimitKey)
    : windowsOf (limiter.sweep now) key
      = if limiter.requestCounter % 256 = 0 then
          (windowsOf limiter.entries key).filter
            fun window => now < window.startedAt + limiter.window.nanos
        else windowsOf limiter.entries key := by
  unfold AuthRateLimiter.sweep windowsOf
  split
  · rw [Table.find?_select]
    cases limiter.entries.find? key with
    | none => rfl
    | some entry =>
        have same
            : durationSince now entry.2.windowStartedAt < limiter.window
              ↔ now < entry.2.windowStartedAt + limiter.window.nanos := by
          rw [← not_le, le_durationSince_iff positive, not_le]
        simp only [Option.filter_some, Option.map_some, windowOf, same, decide_eq_true_eq]
        split <;> rfl
  · rfl

/-- The entry that is counted on is the window of the call. -/
theorem windowOf_current (positive : 0 < limiter.window.nanos) (now : Instant)
    (found : Option AuthRateLimitEntry)
    : windowOf (limiter.currentEntry now found)
      = current limiter.window.nanos (found.map windowOf) now := by
  unfold AuthRateLimiter.currentEntry current
  cases found with
  | none => simp [windowOf]
  | some entry =>
      simp only [Option.getD_some, Option.map_some, le_durationSince_iff positive, windowOf]
      split
      · next isOver => rw [if_neg (not_lt.mpr isOver)]
      · next isRunning => rw [if_pos (not_le.mp isRunning)]

/-- The entry of a key is a window of its counter. -/
theorem count_eq (positive : 0 < limiter.window.nanos) (call : RateLimitedCall)
    (found : Option AuthRateLimitEntry)
    : (limiter.count call.now found).map id windowOf
      = counter limiter.maxRequests limiter.window.nanos RateLimitedCall.now
          (found.map windowOf) call := by
  unfold counter AuthRateLimiter.count
  rw [← windowOf_current positive]
  by_cases full : limiter.maxRequests ≤ (limiter.currentEntry call.now found).requestCount
  · have noRoom : ¬(windowOf (limiter.currentEntry call.now found)).count < limiter.maxRequests :=
      not_lt.mpr full
    rw [if_pos full, if_neg noRoom]
    rfl
  · have room : (windowOf (limiter.currentEntry call.now found)).count < limiter.maxRequests :=
      not_le.mp full
    rw [if_neg full, if_pos room]
    rfl

/-- A checked call is a call of the counter of its key, with what the sweep left. -/
theorem checkCall_eq (positive : 0 < limiter.window.nanos) (call : RateLimitedCall)
    : (limiter.checkCall call).1
        = (plainCounters limiter.maxRequests limiter.window
            (windowsOf (limiter.sweep call.now)) call).1
      ∧ windowsOf (limiter.checkCall call).2.entries
        = (plainCounters limiter.maxRequests limiter.window
            (windowsOf (limiter.sweep call.now)) call).2 := by
  have counted :=
    count_eq positive call (((limiter.sweep call.now).find? call.key).map Prod.snd)
  have found
      : (((limiter.sweep call.now).find? call.key).map Prod.snd).map windowOf
        = windowsOf (limiter.sweep call.now) call.key :=
    Option.map_map ..
  rw [found] at counted
  refine ⟨congrArg Prod.fst counted, funext fun key => ?_⟩
  rw [plainCounters, each_snd]
  by_cases isKey : key = call.key
  · subst isKey
    rw [Function.update_self, ← counted]
    unfold AuthRateLimiter.checkCall AuthRateLimiter.check windowsOf
    dsimp only
    rw [Table.find?_upsert, if_pos rfl]
    cases (limiter.sweep call.now).find? call.key with
    | none => rfl
    | some entry => rfl
  · rw [Function.update_of_ne isKey, windowsOf, windowsOf, AuthRateLimiter.checkCall,
      AuthRateLimiter.check]
    dsimp only
    rw [Table.find?_upsert, if_neg isKey]

------------------------------------------------------------
-- Histories
------------------------------------------------------------

/-- The answers of a new limiter. -/
def rateLimited (maxRequests : Nat) (window : Duration) (calls : List RateLimitedCall)
    : List (RateLimitedCall × Bool) :=
  transcript AuthRateLimiter.checkCall (.new maxRequests window) calls

def Ordered (calls : List RateLimitedCall) : Prop :=
  calls.Pairwise fun first second => first.now ≤ second.now

/-- The limiter has the windows of the counters, except for some that no call can tell from none. -/
structure Follows (maxRequests : Nat) (window : Duration) (limiter : AuthRateLimiter)
    (states : AuthRateLimitKey → Option (Window Instant)) (calls : List RateLimitedCall)
    : Prop where
  sameLimit : limiter.maxRequests = maxRequests
  sameWindow : limiter.window = window
  ordered : Ordered calls
  forgets
    : Forgets (counter maxRequests window.nanos RateLimitedCall.now) (windowsOf limiter.entries)
        states calls

variable {maxRequests : Nat} {window : Duration} {calls rest : List RateLimitedCall}
  {states : AuthRateLimitKey → Option (Window Instant)}

/-- What a sweep drops is over for all calls to come. -/
theorem Follows.sweep (positive : 0 < window.nanos)
    (follows : Follows maxRequests window limiter states (call :: rest))
    : Forgets (counter maxRequests window.nanos RateLimitedCall.now)
        (windowsOf (limiter.sweep call.now)) states (call :: rest) := by
  obtain ⟨rfl, rfl, ordered, forgets⟩ := follows
  have swept := funext (windowsOf_sweep positive call.now)
  by_cases sweeps : limiter.requestCounter % 256 = 0
  · simp only [sweeps, if_true] at swept
    rw [swept]
    refine forgets.filter _ fun key state isState isOver => forgettable_of_over ?_
    have ended : state.startedAt + limiter.window.nanos ≤ call.now :=
      not_lt.mp (of_decide_eq_false isOver)
    rw [List.forall_mem_cons]
    exact ⟨ended, fun later member => ended.trans ((List.pairwise_cons.mp ordered).1 later member)⟩
  · simp only [sweeps, if_false] at swept
    rw [swept]
    exact forgets

/-- Every call is answered as by the counters. -/
theorem Follows.checkCall (positive : 0 < window.nanos)
    (follows : Follows maxRequests window limiter states (call :: rest))
    : (limiter.checkCall call).1 = (plainCounters maxRequests window states call).1
      ∧ Follows maxRequests window (limiter.checkCall call).2
          (plainCounters maxRequests window states call).2 rest := by
  have swept := follows.sweep positive
  obtain ⟨rfl, rfl, ordered, _⟩ := follows
  obtain ⟨answer, after⟩ := checkCall_eq positive call
  obtain ⟨same, forgets⟩ := swept.each RateLimitedCall.key
  exact ⟨answer.trans same, rfl, rfl, (List.pairwise_cons.mp ordered).2, after ▸ forgets⟩

/-- The limiter answers like counters that forget nothing. -/
theorem rateLimited_eq_plainCounters (maxRequests : Nat) (positive : 0 < window.nanos)
    (ordered : Ordered calls)
    : rateLimited maxRequests window calls
      = transcript (plainCounters maxRequests window) (fun _ => none) calls := by
  apply transcript_eq_of_simulation (Follows maxRequests window)
  · intro limiter states call rest follows
    exact follows.checkCall positive
  · exact ⟨rfl, rfl, ordered, .refl⟩

/-- A window is swept only when it is over. -/
theorem windowsOf_sweep_eq_some (positive : 0 < limiter.window.nanos) {now : Instant}
    {key : AuthRateLimitKey} {state : Window Instant}
    (swept : windowsOf (limiter.sweep now) key = some state)
    : windowsOf limiter.entries key = some state := by
  rw [windowsOf_sweep positive] at swept
  split at swept
  · exact (Option.filter_eq_some_iff.mp swept).1
  · exact swept

theorem over_of_swept (positive : 0 < limiter.window.nanos) {now : Instant}
    {key : AuthRateLimitKey} {state : Window Instant}
    (found : windowsOf limiter.entries key = some state)
    : windowsOf (limiter.sweep now) key = some state
      ∨ state.startedAt + limiter.window.nanos ≤ now := by
  rw [windowsOf_sweep positive, found, Option.filter_some]
  split
  · split
    · exact .inl rfl
    · next isOver =>
        exact .inr (not_lt.mp (of_decide_eq_false (Bool.eq_false_of_not_eq_true isOver)))
  · exact .inl rfl

/-- A rejected call leaves the window of its key alone, unless nothing is ever accepted. -/
theorem windowsOf_checkCall_of_rejected (positive : 0 < limiter.window.nanos)
    (rejected : (limiter.checkCall call).1 = false)
    : windowsOf (limiter.checkCall call).2.entries call.key = windowsOf limiter.entries call.key
      ∨ limiter.maxRequests = 0
        ∧ ∀ window ∈ windowsOf limiter.entries call.key,
            window.startedAt + limiter.window.nanos ≤ call.now := by
  obtain ⟨answer, after⟩ := checkCall_eq positive call
  rw [answer] at rejected
  rw [after, plainCounters, each_snd, Function.update_self]
  rcases state_of_rejected rejected with same | ⟨zero, allEnded⟩
  · exact .inl (windowsOf_sweep_eq_some positive same ▸ rfl)
  · refine .inr ⟨zero, fun window found => ?_⟩
    rcases over_of_swept positive found with kept | ended
    · exact allEnded window kept
    · exact ended

/-- The limiter keeps its settings. -/
theorem settings_final
    : (final AuthRateLimiter.checkCall limiter calls).maxRequests = limiter.maxRequests
      ∧ (final AuthRateLimiter.checkCall limiter calls).window = limiter.window := by
  induction calls generalizing limiter with
  | nil => exact ⟨rfl, rfl⟩
  | cons call rest ih => exact ih

/-- A limiter is a fixed-window counter for every address in every bucket. -/
theorem rateLimiter_fixedWindows (positive : 0 < window.nanos) (ordered : Ordered calls)
    : rateLimited maxRequests window calls
        = transcript (plainCounters maxRequests window) (fun _ => none) calls
      ∧ (∀ key,
          (rateLimited maxRequests window calls).filter (fun entry => entry.1.key = key)
          = rateLimited maxRequests window (calls.filter fun call => call.key = key))
      ∧ (∀ before call after,
          rateLimited maxRequests window calls = before ++ (call, false) :: after
          → rateLimited maxRequests window ((before ++ after).map Prod.fst) = before ++ after)
      ∧ (∀ before call after,
          rateLimited maxRequests window calls = before ++ (call, false) :: after
          → let limiter :=
              final AuthRateLimiter.checkCall (.new maxRequests window) (before.map Prod.fst)
            windowsOf (limiter.checkCall call).2.entries call.key
              = windowsOf limiter.entries call.key
            ∨ maxRequests = 0
              ∧ ∀ last ∈ windowsOf limiter.entries call.key,
                  last.startedAt + window.nanos ≤ call.now)
      ∧ ∀ key start,
          (rateLimited maxRequests window calls).countP (fun (call, accepted) =>
            accepted && call.key = key && start ≤ call.now && call.now < start + window.nanos)
          ≤ 2 * maxRequests := by
  have plain := rateLimited_eq_plainCounters maxRequests positive ordered
  refine ⟨plain, fun key => ?_, fun before call after splits => ?_,
    fun before call after splits => ?_, fun key start => ?_⟩
  · rw [plain, rateLimited_eq_plainCounters maxRequests positive (ordered.filter _)]
    exact (transcript_each_filter key).symm
  · have splitsPlain := plain ▸ splits
    have fewer : ((before ++ after).map Prod.fst).Sublist calls := by
      rw [(transcript_split splits).1, List.map_append]
      exact (List.sublist_cons_self _ _).append_left _
    rw [rateLimited_eq_plainCounters maxRequests positive (ordered.sublist fewer)]
    exact transcript_erase_rejected splitsPlain
  · have rejected := (transcript_split splits).2.2.1
    obtain ⟨sameLimit, sameWindow⟩ :
        (final AuthRateLimiter.checkCall (.new maxRequests window)
              (before.map Prod.fst)).maxRequests
            = maxRequests
          ∧ (final AuthRateLimiter.checkCall (.new maxRequests window) (before.map Prod.fst)).window
            = window :=
      settings_final
    have kept := windowsOf_checkCall_of_rejected (sameWindow.symm ▸ positive) rejected
    rw [sameLimit, sameWindow] at kept
    exact kept
  · have own
        : (transcript (plainCounters maxRequests window) (fun _ => none) calls).filter _ = _ :=
      filter_transcript_each key
    have atMost := countP_acceptedWithin_le maxRequests window.nanos start none
      (ordered.filter fun call => call.key = key)
    rw [← own, List.countP_filter] at atMost
    rw [plain]
    refine (List.countP_mono_left fun entry _ isCounted => ?_).trans atMost
    simp only [Bool.and_eq_true, decide_eq_true_eq, acceptedWithin] at isCounted ⊢
    tauto

/-- Calls of two addresses and two buckets, within one minute and after it. -/
def callsOfTwoAddresses : List RateLimitedCall :=
  [⟨⟨"token", "127.0.0.1"⟩, 0⟩,
    ⟨⟨"token", "127.0.0.1"⟩, 1000000000⟩,
    ⟨⟨"token", "127.0.0.1"⟩, 2000000000⟩,
    ⟨⟨"token", "127.0.0.2"⟩, 2000000000⟩,
    ⟨⟨"admin_login", "127.0.0.1"⟩, 2000000000⟩,
    ⟨⟨"token", "127.0.0.1"⟩, 60000000000⟩]

theorem rateLimiter_fixedWindows_twoPerMinute
    : rateLimited 2 (.fromSecs 60) callsOfTwoAddresses
        = transcript (plainCounters 2 (.fromSecs 60)) (fun _ => none) callsOfTwoAddresses
      ∧ (rateLimited 2 (.fromSecs 60) callsOfTwoAddresses).map Prod.snd
        = [true, true, false, true, true, true] := by
  have ordered : Ordered callsOfTwoAddresses := by
    unfold Ordered callsOfTwoAddresses
    decide
  exact ⟨(rateLimiter_fixedWindows (by decide) ordered).1, by decide +kernel⟩

end AlonSentinel.System
