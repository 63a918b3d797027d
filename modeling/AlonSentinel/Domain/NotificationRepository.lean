import AlonSentinel.Domain.Models

/-! The statements on notification channels, on their overrides per site and on the
deliveries queued for them.
-/

namespace AlonSentinel.Domain

open KeyedTable

------------------------------------------------------------
-- Channels and overrides
------------------------------------------------------------

structure NotificationChannelParams where
  channelType : NotificationChannelType
  name : String
  destination : String
  webhookSecretCiphertext : Option String
  notifyOnFailure : Bool
  notifyOnRecovery : Bool
  isActive : Bool

/-- The columns set by both channel statements. -/
def NotificationChannelParams.configure (params : NotificationChannelParams)
    (now : Timestamp) (channel : NotificationChannel)
    : NotificationChannel :=
  { channel with
    channelType := params.channelType
    name := params.name
    destination := params.destination
    webhookSecretCiphertext := params.webhookSecretCiphertext
    notifyOnFailure := params.notifyOnFailure
    notifyOnRecovery := params.notifyOnRecovery
    isActive := params.isActive
    updatedAt := now }

/-- Whether another channel than `channelId` has the name (`uq_notification_channels_name`). -/
def NotificationChannelParams.nameTaken (params : NotificationChannelParams) (db : Database)
    (channelId : Int)
    : Bool :=
  db.notificationChannels.rows.any fun other =>
    other.id != channelId && other.name = params.name

/-- The constraint of the table that a row violates: a webhook channel has a secret
(`webhook_channels_require_secret`), and no two channels have one name.
-/
def NotificationChannelParams.violation (params : NotificationChannelParams) (db : Database)
    (channelId : Int)
    : Option DatabaseError :=
  if params.channelType = .webhook && params.webhookSecretCiphertext.isNone then
    some (.checkViolation "webhook_channels_require_secret")
  else if params.nameTaken db channelId then
    some (.uniqueViolation "uq_notification_channels_name")
  else none

def createChannel (db : Database) (now : Timestamp) (params : NotificationChannelParams)
    : Except DatabaseError (NotificationChannel × Database) :=
  match params.violation db db.notificationChannels.nextId with
  | some error => .error error
  | none =>
      let make := fun id : Int =>
        ({ params with id, createdAt := now, updatedAt := now } : NotificationChannel)
      .ok (make db.notificationChannels.nextId,
        { db with notificationChannels := db.notificationChannels.insert make })

def updateChannel (db : Database) (now : Timestamp) (channelId : Int)
    (params : NotificationChannelParams)
    : Except DatabaseError (Option NotificationChannel × Database) :=
  match db.notificationChannels.find? channelId with
  | none => .ok (none, db)
  | some channel =>
      match params.violation db channelId with
      | some error => .error error
      | none =>
          .ok (some (params.configure now channel),
            { db with
              notificationChannels :=
                db.notificationChannels.update (·.id = channelId) (params.configure now) })

structure ChannelOverrideParams where
  notificationChannelId : Int
  notifyOnFailure : Option Bool
  notifyOnRecovery : Option Bool
  isActive : Option Bool

/-- Inserts or replaces the override of a site for a channel, when both exist. -/
def upsertForSite (db : Database) (now : Timestamp) (siteId overrideId : Int)
    (params : ChannelOverrideParams)
    : Database :=
  if (db.sites.find? siteId).isSome
      && (db.notificationChannels.find? params.notificationChannelId).isSome then
    { db with
      siteNotificationChannelOverrides :=
        db.siteNotificationChannelOverrides.upsert
          { params with id := overrideId, siteId, createdAt := now, updatedAt := now }
          (fun stored =>
            { stored with
              notifyOnFailure := params.notifyOnFailure
              notifyOnRecovery := params.notifyOnRecovery
              isActive := params.isActive
              updatedAt := now })
          fun _ same => same }
  else
    db

def deleteForSite (db : Database) (siteId notificationChannelId : Int) : Database :=
  { db with
    siteNotificationChannelOverrides :=
      db.siteNotificationChannelOverrides.select fun stored =>
        stored.pair != (siteId, notificationChannelId) }

/-- A channel as one site sees it. -/
structure EffectiveNotificationChannel where
  id : Int
  channelType : NotificationChannelType
  name : String
  destination : String
  webhookSecretCiphertext : Option String
  defaultNotifyOnFailure : Bool
  defaultNotifyOnRecovery : Bool
  defaultIsActive : Bool
  notifyOnFailure : Bool
  notifyOnRecovery : Bool
  isActive : Bool
  overrideId : Option Int
  overrideNotifyOnFailure : Option Bool
  overrideNotifyOnRecovery : Option Bool
  overrideIsActive : Option Bool

/-- One row of `list_effective_by_site_id`: an override counts where it is not `NULL`. -/
def NotificationChannel.effective (channel : NotificationChannel)
    (siteOverride : Option SiteNotificationChannelOverride)
    : EffectiveNotificationChannel where
  id := channel.id
  channelType := channel.channelType
  name := channel.name
  destination := channel.destination
  webhookSecretCiphertext := channel.webhookSecretCiphertext
  defaultNotifyOnFailure := channel.notifyOnFailure
  defaultNotifyOnRecovery := channel.notifyOnRecovery
  defaultIsActive := channel.isActive
  notifyOnFailure := (siteOverride.bind (·.notifyOnFailure)).getD channel.notifyOnFailure
  notifyOnRecovery := (siteOverride.bind (·.notifyOnRecovery)).getD channel.notifyOnRecovery
  isActive := (siteOverride.bind (·.isActive)).getD channel.isActive
  overrideId := siteOverride.map (·.id)
  overrideNotifyOnFailure := siteOverride.bind (·.notifyOnFailure)
  overrideNotifyOnRecovery := siteOverride.bind (·.notifyOnRecovery)
  overrideIsActive := siteOverride.bind (·.isActive)

/-- Every channel as a site sees it, in the order of the channel ids; none for a site that
does not exist. -/
def listEffectiveBySiteId (db : Database) (siteId : Int) : List EffectiveNotificationChannel :=
  if (db.sites.find? siteId).isSome then
    (db.notificationChannels.rows.insertionSort fun first second => first.id ≤ second.id).map
      fun channel =>
        channel.effective (db.siteNotificationChannelOverrides.find? (siteId, channel.id))
  else
    []

------------------------------------------------------------
-- Enqueueing deliveries
------------------------------------------------------------

structure NewNotificationDelivery where
  notificationChannelId : Int
  siteMonitorId : Int
  siteMonitorCheckId : Int
  incidentId : Option Int
  eventType : NotificationEventType
  payload : SerdeJson.Value

/-- The row that an enqueue inserts, with the column defaults. -/
def NewNotificationDelivery.row (delivery : NewNotificationDelivery) (now : Timestamp)
    (id : Int)
    : NotificationDelivery :=
  { delivery with
    id
    status := .pending
    attempts := 0
    nextAttemptAt := some now
    claimedAt := none
    leaseUntil := none
    claimedBy := none
    deliveredAt := none
    lastError := none
    createdAt := now
    updatedAt := now }

/-- The unique key `(notification_channel_id, site_monitor_check_id, event_type)`. -/
def NewNotificationDelivery.conflictsWith (delivery : NewNotificationDelivery)
    (stored : NotificationDelivery)
    : Bool :=
  stored.notificationChannelId = delivery.notificationChannelId
  && stored.siteMonitorCheckId = delivery.siteMonitorCheckId
  && stored.eventType = delivery.eventType

/-- `INSERT … ON CONFLICT (…) DO NOTHING`. -/
def enqueueDelivery (now : Timestamp)
    (deliveries : SerialTable NotificationDelivery NotificationDelivery.id)
    (delivery : NewNotificationDelivery)
    : SerialTable NotificationDelivery NotificationDelivery.id :=
  if deliveries.rows.any delivery.conflictsWith then
    deliveries
  else
    deliveries.insert (delivery.row now)

def enqueueDeliveries (db : Database) (now : Timestamp)
    (deliveries : List NewNotificationDelivery)
    : Database :=
  { db with
    notificationDeliveries := deliveries.foldl (enqueueDelivery now) db.notificationDeliveries }

------------------------------------------------------------
-- Claiming and settling deliveries
------------------------------------------------------------

/-- What a claim returns: the delivery joined with its channel. -/
structure ClaimedNotificationDelivery where
  id : Int
  notificationChannelId : Int
  siteMonitorId : Int
  siteMonitorCheckId : Int
  incidentId : Option Int
  eventType : NotificationEventType
  payload : SerdeJson.Value
  status : NotificationDeliveryStatus
  attempts : Int
  channelType : NotificationChannelType
  channelName : String
  destination : String
  webhookSecretCiphertext : Option String

/-- The `RETURNING` list of a claim. -/
def ClaimedNotificationDelivery.of (delivery : NotificationDelivery)
    (channel : NotificationChannel)
    : ClaimedNotificationDelivery where
  id := delivery.id
  notificationChannelId := delivery.notificationChannelId
  siteMonitorId := delivery.siteMonitorId
  siteMonitorCheckId := delivery.siteMonitorCheckId
  incidentId := delivery.incidentId
  eventType := delivery.eventType
  payload := delivery.payload
  status := delivery.status
  attempts := delivery.attempts
  channelType := channel.channelType
  channelName := channel.name
  destination := channel.destination
  webhookSecretCiphertext := channel.webhookSecretCiphertext

/-- A delivery that still has an attempt ahead. -/
def NotificationDelivery.isUnsettled (delivery : NotificationDelivery) : Bool :=
  delivery.status = .pending || (delivery.status = .failed && delivery.nextAttemptAt.isSome)

/-- The `WHERE` clause of a claim, less the rows that `SKIP LOCKED` skips. -/
def NotificationDelivery.isClaimable (db : Database) (now : Timestamp)
    (delivery : NotificationDelivery)
    : Bool :=
  (db.notificationChannels.find? delivery.notificationChannelId).any (·.isActive)
  && delivery.isUnsettled
  && delivery.nextAttemptAt.any (· ≤ now)
  && delivery.leaseUntil.all (· < now)

/-- `ORDER BY next_attempt_at, id`; `NULL` sorts last. -/
def NotificationDelivery.claimOrder (first second : NotificationDelivery) : Bool :=
  match first.nextAttemptAt, second.nextAttemptAt with
  | none, none => first.id ≤ second.id
  | none, some _ => false
  | some _, none => true
  | some earlier, some later => earlier < later || (earlier == later && first.id ≤ second.id)

/-- The `SET` list of a claim. -/
def NotificationDelivery.asClaimed (now : Timestamp) (workerId : String) (leaseSeconds : Int)
    (delivery : NotificationDelivery)
    : NotificationDelivery :=
  { delivery with
    claimedAt := some now
    leaseUntil := some (now + seconds leaseSeconds)
    claimedBy := some workerId
    updatedAt := now }

/-- Claims up to `limit` due deliveries and returns them joined with their channels. -/
def claimDueDeliveries (db : Database) (now : Timestamp) (workerId : String) (limit : Nat)
    (leaseSeconds : Int) (locked : List Int)
    : Database × Table ClaimedNotificationDelivery ClaimedNotificationDelivery.id :=
  let due :=
    db.notificationDeliveries.pick
      (fun delivery => delivery.isClaimable db now && delivery.id ∉ locked)
      NotificationDelivery.claimOrder limit
  let notificationDeliveries :=
    db.notificationDeliveries.update (fun delivery => delivery.id ∈ due)
      (·.asClaimed now workerId leaseSeconds)
  let claimed := notificationDeliveries.select fun delivery => delivery.id ∈ due
  ({ db with notificationDeliveries },
    claimed.collect
      (fun delivery =>
        (db.notificationChannels.find? delivery.notificationChannelId).map
          (ClaimedNotificationDelivery.of delivery))
      fun _ _ joined => by
        obtain ⟨_, _, rfl⟩ := Option.map_eq_some_iff.mp joined
        rfl)

/-- The later of next attempt and end of the lease, none of them before `now`; `GREATEST` skips a
`NULL`. -/
def NotificationDelivery.claimableFrom (now : Timestamp) (delivery : NotificationDelivery)
    : Timestamp :=
  max (delivery.nextAttemptAt.elim now (max · now))
    (match delivery.leaseUntil with
      | some leaseUntil => if now < leaseUntil then leaseUntil else now
      | none => now)

/-- `MIN` of these instants over the deliveries of active channels that have an attempt ahead. -/
def nextClaimableDeliveryAt (db : Database) (now : Timestamp) : Option Timestamp :=
  let deliveries :=
    db.notificationDeliveries.rows.filter fun delivery =>
      (db.notificationChannels.find? delivery.notificationChannelId).any (·.isActive)
      && delivery.isUnsettled
      && delivery.nextAttemptAt.isSome
  (deliveries.map (·.claimableFrom now)).min?

/-- `WHERE id = $1 AND claimed_by = $2`. -/
def NotificationDelivery.isClaimedBy (deliveryId : Int) (claimedBy : String)
    (delivery : NotificationDelivery)
    : Bool :=
  delivery.id = deliveryId && delivery.claimedBy = some claimedBy

/-- Runs an update guarded by the claim; the result tells whether a row was updated. -/
def updateClaimedDelivery (db : Database) (deliveryId : Int) (claimedBy : String)
    (set : NotificationDelivery → NotificationDelivery)
    (keeps : ∀ delivery, (set delivery).id = delivery.id)
    : Bool × Database :=
  ((db.notificationDeliveries.find? deliveryId).any (·.isClaimedBy deliveryId claimedBy),
    { db with
      notificationDeliveries :=
        db.notificationDeliveries.update (·.isClaimedBy deliveryId claimedBy) set
          fun delivery _ => keeps delivery })

/-- The `SET` list of `mark_delivered`. -/
def NotificationDelivery.asDelivered (now : Timestamp) (delivery : NotificationDelivery)
    : NotificationDelivery :=
  { delivery with
    status := .delivered
    attempts := delivery.attempts + 1
    deliveredAt := some now
    claimedAt := none
    leaseUntil := none
    claimedBy := none
    lastError := none
    updatedAt := now }

/-- The `SET` list of `mark_failed`. -/
def NotificationDelivery.asFailed (now : Timestamp) (lastError : String)
    (nextAttemptAt : Option Timestamp) (delivery : NotificationDelivery)
    : NotificationDelivery :=
  { delivery with
    status := .failed
    attempts := delivery.attempts + 1
    nextAttemptAt
    claimedAt := none
    leaseUntil := none
    claimedBy := none
    lastError := some lastError
    updatedAt := now }

def markDelivered (db : Database) (now : Timestamp) (deliveryId : Int) (claimedBy : String)
    : Bool × Database :=
  updateClaimedDelivery db deliveryId claimedBy (·.asDelivered now) fun _ => rfl

def markFailed (db : Database) (now : Timestamp) (deliveryId : Int) (claimedBy : String)
    (lastError : String) (nextAttemptAt : Option Timestamp)
    : Bool × Database :=
  updateClaimedDelivery db deliveryId claimedBy (·.asFailed now lastError nextAttemptAt)
    fun _ => rfl

/-- The `SET` list of `extend_delivery_claim`. -/
def NotificationDelivery.asExtended (now : Timestamp) (leaseSeconds : Int)
    (delivery : NotificationDelivery)
    : NotificationDelivery :=
  { delivery with leaseUntil := some (now + seconds leaseSeconds), updatedAt := now }

def extendDeliveryClaim (db : Database) (now : Timestamp) (deliveryId : Int)
    (claimedBy : String) (leaseSeconds : Int)
    : Bool × Database :=
  updateClaimedDelivery db deliveryId claimedBy (·.asExtended now leaseSeconds) fun _ => rfl

/-- The `SET` list of `release_delivery_claim`. -/
def NotificationDelivery.asReleased (now : Timestamp) (delivery : NotificationDelivery)
    : NotificationDelivery :=
  { delivery with claimedAt := none, leaseUntil := none, claimedBy := none, updatedAt := now }

def releaseDeliveryClaim (db : Database) (now : Timestamp) (deliveryId : Int)
    (claimedBy : String)
    : Bool × Database :=
  updateClaimedDelivery db deliveryId claimedBy (·.asReleased now) fun _ => rfl

end AlonSentinel.Domain
