import AlonSentinel.Notifications.Payload

/-! Deciding whether a committed check is worth a notification, and queueing one delivery for
every channel that wants it.
-/

namespace AlonSentinel.Notifications

open Domain
open KeyedTable

def determineEventType (previousIsSuccess : Option Bool) (currentIsSuccess : Bool)
    : Option NotificationEventType :=
  match previousIsSuccess, currentIsSuccess with
  | some true, false | none, false => some .failure
  | some false, true => some .recovery
  | _, _ => none

/-- Whether a channel is subscribed to an event. -/
def subscribedTo (eventType : NotificationEventType) (channel : EffectiveNotificationChannel)
    : Bool :=
  match eventType with
  | .failure => channel.notifyOnFailure
  | .recovery => channel.notifyOnRecovery

/-- The channels that receive an event of a site. -/
def notifiedChannels (db : Database) (siteId : Int) (eventType : NotificationEventType)
    : List EffectiveNotificationChannel :=
  ((listEffectiveBySiteId db siteId).filter (·.isActive)).filter (subscribedTo eventType)

/-- The delivery of an event of a check to one channel. -/
def newDelivery (siteMonitor : SiteMonitor) (check : SiteMonitorCheck)
    (incidentId : Option Int) (eventType : NotificationEventType) (payload : SerdeJson.Value)
    (channel : EffectiveNotificationChannel)
    : NewNotificationDelivery where
  notificationChannelId := channel.id
  siteMonitorId := siteMonitor.id
  siteMonitorCheckId := check.id
  incidentId := incidentId
  eventType := eventType
  payload := payload

/-- Queues the deliveries of a check and counts them. -/
def enqueueSiteMonitorNotifications (db : Database) (now : Timestamp)
    (siteMonitor : SiteMonitor) (check : SiteMonitorCheck) (incidentId : Option Int)
    : Except DatabaseError (Nat × Database) :=
  match determineEventType siteMonitor.lastIsSuccess check.isSuccess with
  | none => .ok (0, db)
  | some eventType =>
      if (notifiedChannels db siteMonitor.siteId eventType).isEmpty then
        .ok (0, db)
      else do
        let context ← loadNotificationContext db siteMonitor.siteId
        let payload := (buildPayload context siteMonitor check eventType).toJson
        let deliveries :=
          (notifiedChannels db siteMonitor.siteId eventType).map
            (newDelivery siteMonitor check incidentId eventType payload)
        .ok (deliveries.length, enqueueDeliveries db now deliveries)

------------------------------------------------------------
-- Event types
------------------------------------------------------------

/-- An event is determined exactly when the outcome differs from the previous one, a monitor
without one counting as successful. -/
theorem determineEventType_isSome (previous : Option Bool) (current : Bool)
    : (determineEventType previous current).isSome ↔ current ≠ previous.getD true := by
  rcases previous with _ | _ | _ <;> cases current <;> decide

/-- A failure event is a first failure or a failure after a success. -/
theorem determineEventType_eq_failure {previous : Option Bool} {current : Bool}
    : determineEventType previous current = some .failure
      ↔ current = false ∧ previous ≠ some false := by
  rcases previous with _ | _ | _ <;> cases current <;> decide

/-- A recovery event is a success after a failure. -/
theorem determineEventType_eq_recovery {previous : Option Bool} {current : Bool}
    : determineEventType previous current = some .recovery
      ↔ current = true ∧ previous = some false := by
  rcases previous with _ | _ | _ <;> cases current <;> decide

------------------------------------------------------------
-- What enqueueing adds
------------------------------------------------------------

/-- The deliveries a check asks for: none without an event, else one for every notified
channel. -/
def requestedDeliveries (db : Database) (siteMonitor : SiteMonitor) (check : SiteMonitorCheck)
    (incidentId : Option Int) (payload : SerdeJson.Value)
    : List NewNotificationDelivery :=
  match determineEventType siteMonitor.lastIsSuccess check.isSuccess with
  | none => []
  | some eventType =>
      (notifiedChannels db siteMonitor.siteId eventType).map
        (newDelivery siteMonitor check incidentId eventType payload)

/-- A channel is notified only for a site that exists. -/
theorem site_of_notifiedChannels {db : Database} {siteId : Int}
    {eventType : NotificationEventType}
    (notified : (notifiedChannels db siteId eventType).isEmpty = false)
    : ∃ site, db.sites.find? siteId = some site := by
  cases found : db.sites.find? siteId with
  | some site => exact ⟨site, rfl⟩
  | none => simp [notifiedChannels, listEffectiveBySiteId, found] at notified

/-- Enqueueing succeeds, and its effect is to queue the requested deliveries. -/
theorem enqueueSiteMonitorNotifications_eq (db : Database) (now : Timestamp)
    (siteMonitor : SiteMonitor) (check : SiteMonitorCheck) (incidentId : Option Int)
    : ∃ payload,
        enqueueSiteMonitorNotifications db now siteMonitor check incidentId
        = .ok ((requestedDeliveries db siteMonitor check incidentId payload).length,
            enqueueDeliveries db now
              (requestedDeliveries db siteMonitor check incidentId payload)) := by
  unfold enqueueSiteMonitorNotifications requestedDeliveries
  cases determineEventType siteMonitor.lastIsSuccess check.isSuccess with
  | none => exact ⟨.null, rfl⟩
  | some eventType =>
      cases empty : (notifiedChannels db siteMonitor.siteId eventType).isEmpty with
      | true =>
          have noChannels := List.isEmpty_iff.mp empty
          simp only [noChannels, List.map_nil]
          exact ⟨.null, rfl⟩
      | false =>
          obtain ⟨site, found⟩ := site_of_notifiedChannels empty
          simp only [loadNotificationContext, found, empty, Bool.false_eq_true, if_false]
          exact ⟨_, rfl⟩

/-- Requests for distinct channels that conflict with no stored delivery are all stored, in
order. By induction over the requests; a stored request conflicts with no later one, since
their channels differ.
-/
theorem rows_foldl_enqueueDelivery {now : Timestamp} {requested : List NewNotificationDelivery}
    {deliveries : SerialTable NotificationDelivery NotificationDelivery.id}
    (distinct : (requested.map (·.notificationChannelId)).Nodup)
    (unstored
      : ∀ request ∈ requested, ∀ stored ∈ deliveries.rows, request.conflictsWith stored = false)
    : ∃ added,
        (requested.foldl (enqueueDelivery now) deliveries).rows = deliveries.rows ++ added
        ∧ added.map (·.notificationChannelId) = requested.map (·.notificationChannelId)
        ∧ ∀ delivery ∈ added, ∃ request ∈ requested, ∃ id, delivery = request.row now id := by
  induction requested generalizing deliveries with
  | nil => exact ⟨[], (List.append_nil _).symm, rfl, List.forall_mem_nil _⟩
  | cons request rest ih =>
      obtain ⟨notInRest, distinctRest⟩ := List.nodup_cons.mp distinct
      have unblocked : deliveries.rows.any request.conflictsWith = false :=
        List.any_eq_false.mpr fun stored member =>
          Bool.eq_false_iff.mp (unstored request List.mem_cons_self stored member)
      have stores
          : enqueueDelivery now deliveries request
            = deliveries.insert (request.row now) fun _ => rfl := by
        rw [enqueueDelivery, unblocked]
        rfl
      have later
          : ∀ other ∈ rest,
              ∀ stored ∈ (deliveries.insert (request.row now) fun _ => rfl).rows,
                other.conflictsWith stored = false := by
        intro other member stored isStored
        rcases List.mem_append.mp isStored with old | new
        · exact unstored other (List.mem_cons_of_mem _ member) stored old
        · rw [List.mem_singleton.mp new]
          have apart : request.notificationChannelId ≠ other.notificationChannelId := by
            intro same
            exact notInRest (List.mem_map.mpr ⟨other, member, same.symm⟩)
          simp [NewNotificationDelivery.conflictsWith, NewNotificationDelivery.row, apart]
      obtain ⟨added, rows, channels, each⟩ := ih distinctRest later
      refine ⟨request.row now deliveries.nextId :: added, ?_, ?_, ?_⟩
      · rw [List.foldl_cons, stores, rows]
        exact List.append_assoc deliveries.rows [_] added
      · rw [List.map_cons, List.map_cons, channels]
        rfl
      · intro delivery member
        rcases List.mem_cons.mp member with rfl | old
        · exact ⟨request, List.mem_cons_self, _, rfl⟩
        · obtain ⟨other, isOther, row⟩ := each delivery old
          exact ⟨other, List.mem_cons_of_mem _ isOther, row⟩

/-- Enqueueing keeps every stored delivery and stores rows of requests under new ids only. -/
theorem find?_foldl_enqueueDelivery {now : Timestamp} {requested : List NewNotificationDelivery}
    {deliveries : SerialTable NotificationDelivery NotificationDelivery.id} (wanted : Int)
    : (requested.foldl (enqueueDelivery now) deliveries).find? wanted = deliveries.find? wanted
      ∨ (deliveries.find? wanted = none
        ∧ ∃ request ∈ requested,
            (requested.foldl (enqueueDelivery now) deliveries).find? wanted
            = some (request.row now wanted)) := by
  induction requested generalizing deliveries with
  | nil => exact .inl rfl
  | cons request rest ih =>
      have first
          : (enqueueDelivery now deliveries request).find? wanted = deliveries.find? wanted
            ∨ (deliveries.find? wanted = none
              ∧ (enqueueDelivery now deliveries request).find? wanted
                = some (request.row now wanted)) := by
        unfold enqueueDelivery
        split
        · exact .inl rfl
        · have inserted :=
            SerialTable.find?_insert deliveries (request.row now) (fun _ => rfl) wanted
          by_cases new : wanted = deliveries.nextId
          · subst new
            exact .inr ⟨deliveries.find?_nextId, inserted.trans (if_pos rfl)⟩
          · exact .inl (inserted.trans (if_neg new))
      rw [List.foldl_cons]
      rcases ih with same | ⟨absent, other, member, stored⟩
      · rcases first with unchanged | ⟨absent, stored⟩
        · exact .inl (same.trans unchanged)
        · exact .inr ⟨absent, request, List.mem_cons_self, same.trans stored⟩
      · rcases first with unchanged | ⟨_, stored⟩
        · exact .inr ⟨unchanged.symm.trans absent, other, List.mem_cons_of_mem _ member, stored⟩
        · cases absent.symm.trans stored

/-- A channel is notified at most once. -/
theorem nodup_notifiedChannels (db : Database) (siteId : Int)
    (eventType : NotificationEventType)
    : ((notifiedChannels db siteId eventType).map (·.id)).Nodup := by
  have all : ((listEffectiveBySiteId db siteId).map (·.id)).Nodup := by
    unfold listEffectiveBySiteId
    split
    · rw [List.map_map]
      exact (((List.perm_insertionSort _ db.notificationChannels.rows).map _).nodup_iff).mpr
        db.notificationChannels.keysNodup
    · exact List.nodup_nil
  exact ((List.filter_sublist.trans List.filter_sublist).map _).nodup all

/-- A channel of an existing site is notified when it exists, is active for the site and is
subscribed to the event. -/
theorem mem_notifiedChannels {db : Database} {siteId channelId : Int}
    {eventType : NotificationEventType} (siteExists : (db.sites.find? siteId).isSome = true)
    : channelId ∈ (notifiedChannels db siteId eventType).map (·.id)
      ↔ ∃ channel,
          db.notificationChannels.find? channelId = some channel
          ∧ (channel.effective
              (db.siteNotificationChannelOverrides.find? (siteId, channelId))).isActive = true
          ∧ subscribedTo eventType
              (channel.effective
                (db.siteNotificationChannelOverrides.find? (siteId, channelId)))
            = true := by
  simp only [notifiedChannels, listEffectiveBySiteId, siteExists, if_true, List.mem_map,
    List.mem_filter, (List.perm_insertionSort _ _).mem_iff]
  constructor
  · rintro ⟨_, ⟨⟨⟨channel, stored, rfl⟩, active⟩, subscribed⟩, rfl⟩
    exact ⟨channel, Table.find?_key stored, active, subscribed⟩
  · rintro ⟨channel, found, active, subscribed⟩
    obtain ⟨stored, rfl⟩ := Table.mem_of_find? found
    exact ⟨_, ⟨⟨⟨channel, stored, rfl⟩, active⟩, subscribed⟩, rfl⟩

end AlonSentinel.Notifications
