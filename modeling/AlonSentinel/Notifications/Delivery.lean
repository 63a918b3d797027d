import Mathlib.Algebra.Group.Int.Defs
import Mathlib.Algebra.Group.Nat.Defs
import AlonSentinel.Notifications.Payload

/-! Settling a claimed delivery whose notification could not be sent: whether it is retried,
and when.
-/

namespace AlonSentinel.Notifications

open Domain

/-- The configuration of notification delivery; both counts are validated to be positive. -/
structure DeliveryConfig where
  notificationMaxAttempts : Nat
  notificationRetryBaseSeconds : Nat
  maxAttemptsPositive : 0 < notificationMaxAttempts
  retryBasePositive : 0 < notificationRetryBaseSeconds

/-- Why a notification could not be sent, as far as retrying depends on it. -/
inductive DeliveryErrorKind where
  | smtp (permanent : Bool)
  | address
  | message
  | missingWebhookSecret
  | other
  deriving DecidableEq

structure DeliveryError where
  kind : DeliveryErrorKind
  text : String
  deriving DecidableEq

def shouldRetryDeliveryError (error : DeliveryError) : Bool :=
  match error.kind with
  | .smtp permanent => !permanent
  | .address | .message | .missingWebhookSecret => false
  | .other => true

/-- `value as i64` for a `usize`. -/
def asI64 (value : Nat) : Int := if value < 2 ^ 63 then value else value - 2 ^ 64

/-- `value as usize` for an `i32`. -/
def asUsize (value : Int) : Nat := if 0 ≤ value then value.toNat else 2 ^ 64 - value.natAbs

/-- `i64::saturating_mul`. -/
def saturatingMul (left right : Int) : Int :=
  max (-(2 ^ 63)) (min (2 ^ 63 - 1) (left * right))

def computeRetryDelaySeconds (baseSeconds : Nat) (attemptNumber : Int) : Int :=
  let exponent := max 0 (min 6 (attemptNumber - 1))
  saturatingMul (asI64 baseSeconds) (2 ^ exponent.toNat)

/-- `instant + Duration::seconds(delay)`; both the duration and the sum panic where they
leave the range of their type. -/
def addSeconds (instant : Timestamp) (delay : Int) : Option Timestamp :=
  let sum := instant + seconds delay
  if delay.natAbs ≤ 9223372036854775
      ∧ seconds (-8334601228800) ≤ sum ∧ sum < seconds 8210266876800 then
    some sum
  else
    none

/-- When a failed delivery is attempted again, if ever. The outer `none` is a panic: the attempt
does not return, records nothing, and leaves its claim behind.
-/
def retryTime (config : DeliveryConfig) (hostNow : Timestamp)
    (delivery : ClaimedNotificationDelivery) (shouldRetry : Bool)
    : Option (Option Timestamp) :=
  let attemptNumber := delivery.attempts + 1
  if shouldRetry && asUsize attemptNumber < config.notificationMaxAttempts then
    (addSeconds hostNow
      (computeRetryDelaySeconds config.notificationRetryBaseSeconds attemptNumber)).map some
  else
    some none

/-- Records a failed attempt. The retry time is read off the clock of the host, every stored
instant off the clock of the database; `none` is a panic. -/
def handleDeliveryFailure (config : DeliveryConfig) (db : Database) (now hostNow : Timestamp)
    (delivery : ClaimedNotificationDelivery) (workerId errorMessage : String)
    (shouldRetry : Bool)
    : Option (Bool × Database) :=
  (retryTime config hostNow delivery shouldRetry).map fun nextAttemptAt =>
    markFailed db now delivery.id workerId errorMessage nextAttemptAt

/-- A retry is scheduled only while attempts are left after this one. -/
theorem retryTime_some {config : DeliveryConfig} {hostNow retryAt : Timestamp}
    {delivery : ClaimedNotificationDelivery} {shouldRetry : Bool}
    (nonneg : 0 ≤ delivery.attempts)
    (scheduled : retryTime config hostNow delivery shouldRetry = some (some retryAt))
    : delivery.attempts + 1 < config.notificationMaxAttempts := by
  unfold retryTime at scheduled
  simp only at scheduled
  split at scheduled
  · next retried =>
      obtain ⟨_, fewer⟩ := Bool.and_eq_true_iff.mp retried
      have bound := of_decide_eq_true fewer
      have counted : asUsize (delivery.attempts + 1) = (delivery.attempts + 1).toNat :=
        if_pos (by omega)
      omega
  · cases scheduled

------------------------------------------------------------
-- One delivery
------------------------------------------------------------

/-- What a worker does to the row of a claimed delivery: one statement, or none that takes
effect.
-/
inductive DeliveryAction where
  | extend (leaseSeconds : Int)
  | markDelivered
  | recordFailure (hostNow : Timestamp) (error : DeliveryError)
  | release
  | abandon
  deriving DecidableEq

/-- How the statement went that a heartbeat ran to extend the lease. -/
inductive HeartbeatReply where
  | extended
  | ownershipLost
  /-- The database failed, before or after the deadline of the lease. -/
  | failed (leaseExpired : Bool)
  deriving DecidableEq

/-- What `select!` wakes up for while a notification is being sent. -/
inductive SendEvent where
  | sendCompleted (result : Except DeliveryError Unit)
  | shutdownChanged (requested : Bool)
  | shutdownClosed
  | heartbeat (reply : HeartbeatReply)

inductive NotificationDeliveryExecution where
  | completed
  | cancelled
  deriving DecidableEq

inductive NotificationDeliveryLoopOutcome where
  | completed (result : Except DeliveryError Unit)
  | shutdownCancelled (phase : String)
  | leaseLost

/-- The course of an attempt: whether shutdown was requested before it, what happens while it
sends, and whether the database answers its last statement.
-/
structure AttemptCourse where
  shutdownRequested : Bool
  leaseSeconds : Int
  events : List SendEvent
  hostNow : Timestamp
  databaseAnswers : Bool

/-- Sends a notification and extends the lease meanwhile; `none` while it is still sending. -/
def deliveryLoop (leaseSeconds : Int)
    : List SendEvent → Option (List DeliveryAction × NotificationDeliveryLoopOutcome)
  | [] => none
  | .sendCompleted result :: _ => some ([], .completed result)
  | .shutdownChanged requested :: rest =>
      if requested then some ([], .shutdownCancelled "during send")
      else deliveryLoop leaseSeconds rest
  | .shutdownClosed :: _ => some ([], .shutdownCancelled "during send")
  | .heartbeat .extended :: rest =>
      (deliveryLoop leaseSeconds rest).map fun (extensions, outcome) =>
        (.extend leaseSeconds :: extensions, outcome)
  | .heartbeat .ownershipLost :: _ => some ([.extend leaseSeconds], .leaseLost)
  | .heartbeat (.failed leaseExpired) :: rest =>
      if leaseExpired then some ([.abandon], .leaseLost) else deliveryLoop leaseSeconds rest

/-- What an attempt does to its row, in order, and what it returns; an execution of `none` is an
error. The outcome of the send itself is one of the events.
-/
def deliverOneNotification (delivery : ClaimedNotificationDelivery) (course : AttemptCourse)
    : Option (List DeliveryAction × Option NotificationDeliveryExecution) :=
  let answered := fun statement : DeliveryAction =>
    if course.databaseAnswers then statement else .abandon
  if course.shutdownRequested then
    some ([answered .release], some .cancelled)
  else
    match NotificationPayload.fromJson delivery.payload with
    | none => some ([.abandon], none)
    | some _ =>
        (deliveryLoop course.leaseSeconds course.events).map fun (extensions, outcome) =>
          match outcome with
          | .completed (.ok ()) =>
              (extensions ++ [answered .markDelivered],
                if course.databaseAnswers then some .completed else none)
          | .completed (.error error) =>
              (extensions ++ [answered (.recordFailure course.hostNow error)],
                if course.databaseAnswers then some .completed else none)
          | .shutdownCancelled _ => (extensions ++ [answered .release], some .cancelled)
          | .leaseLost => (extensions, some .cancelled)

/-- No heartbeat loses the claim and no statement fails. -/
structure AttemptCourse.Undisturbed (course : AttemptCourse) : Prop where
  heartbeats : ∀ reply, .heartbeat reply ∈ course.events → reply = .extended
  databaseAnswers : course.databaseAnswers = true

/-- Whether `serde_json` reads a notification off a stored payload. -/
def payloadDecodes (payload : SerdeJson.Value) : Bool :=
  (NotificationPayload.fromJson payload).isSome

/-- The ways in which an attempt ends that nothing disturbs. -/
inductive AttemptEnds (delivery : ClaimedNotificationDelivery) (course : AttemptCourse)
    : DeliveryAction → Option NotificationDeliveryExecution → Prop
  /-- The payload could not be read, and the claim stays behind. -/
  | unreadable (started : course.shutdownRequested = false)
      (undecodable : payloadDecodes delivery.payload = false)
    : AttemptEnds delivery course .abandon none
  | released (reached : course.shutdownRequested = true ∨ payloadDecodes delivery.payload = true)
    : AttemptEnds delivery course .release (some .cancelled)
  | delivered (decodes : payloadDecodes delivery.payload = true)
    : AttemptEnds delivery course .markDelivered (some .completed)
  | failed (decodes : payloadDecodes delivery.payload = true) (error : DeliveryError)
    : AttemptEnds delivery course (.recordFailure course.hostNow error) (some .completed)

/-- An undisturbed send only extends the lease and does not lose it. By induction over the
events.
-/
theorem deliveryLoop_undisturbed {leaseSeconds : Int} {events : List SendEvent}
    {extensions : List DeliveryAction} {outcome : NotificationDeliveryLoopOutcome}
    (heartbeats : ∀ reply, .heartbeat reply ∈ events → reply = .extended)
    (looped : deliveryLoop leaseSeconds events = some (extensions, outcome))
    : (∀ action ∈ extensions, ∃ leaseSeconds, action = .extend leaseSeconds)
      ∧ outcome ≠ .leaseLost := by
  induction events generalizing extensions with
  | nil => cases looped
  | cons event rest ih =>
      have later (reply : HeartbeatReply) (member : .heartbeat reply ∈ rest) : reply = .extended :=
        heartbeats reply (List.mem_cons_of_mem _ member)
      cases event with
      | sendCompleted result =>
          cases looped
          exact ⟨List.forall_mem_nil _, nofun⟩
      | shutdownClosed =>
          cases looped
          exact ⟨List.forall_mem_nil _, nofun⟩
      | shutdownChanged requested =>
          cases requested with
          | true =>
              cases looped
              exact ⟨List.forall_mem_nil _, nofun⟩
          | false => exact ih later looped
      | heartbeat reply =>
          cases heartbeats reply List.mem_cons_self
          obtain ⟨⟨others, ended⟩, restLooped, same⟩ := Option.map_eq_some_iff.mp looped
          cases same
          obtain ⟨onlyExtends, notLost⟩ := ih later restLooped
          exact ⟨List.forall_mem_cons.mpr ⟨⟨leaseSeconds, rfl⟩, onlyExtends⟩, notLost⟩

/-- An undisturbed attempt extends its lease a few times and then ends in one of those ways. -/
theorem deliverOneNotification_ends {delivery : ClaimedNotificationDelivery}
    {course : AttemptCourse} {actions : List DeliveryAction}
    {returned : Option NotificationDeliveryExecution} (undisturbed : course.Undisturbed)
    (ran : deliverOneNotification delivery course = some (actions, returned))
    : ∃ extensions final,
        actions = extensions ++ [final]
        ∧ (∀ action ∈ extensions, ∃ leaseSeconds, action = .extend leaseSeconds)
        ∧ AttemptEnds delivery course final returned := by
  simp only [deliverOneNotification, undisturbed.databaseAnswers, if_true] at ran
  split at ran
  · next requested =>
      cases ran
      exact ⟨[], .release, rfl, List.forall_mem_nil _, .released (.inl requested)⟩
  · next started =>
      split at ran
      · next undecodable =>
          cases ran
          refine ⟨[], .abandon, rfl, List.forall_mem_nil _, .unreadable ?_ ?_⟩
          · exact Bool.eq_false_iff.mpr started
          · simp only [payloadDecodes, undecodable, Option.isSome_none]
      · next payload read =>
          have decodes : payloadDecodes delivery.payload = true := by
            simp only [payloadDecodes, read, Option.isSome_some]
          obtain ⟨⟨extensions, outcome⟩, looped, ended⟩ := Option.map_eq_some_iff.mp ran
          obtain ⟨onlyExtends, notLost⟩ :=
            deliveryLoop_undisturbed undisturbed.heartbeats looped
          cases outcome with
          | completed result =>
              rcases result with error | ⟨⟨⟩⟩
              · cases ended
                exact ⟨extensions, _, rfl, onlyExtends, .failed decodes error⟩
              · cases ended
                exact ⟨extensions, _, rfl, onlyExtends, .delivered decodes⟩
          | shutdownCancelled phase =>
              cases ended
              exact ⟨extensions, _, rfl, onlyExtends, .released (.inr decodes)⟩
          | leaseLost => exact absurd rfl notLost

end AlonSentinel.Notifications
