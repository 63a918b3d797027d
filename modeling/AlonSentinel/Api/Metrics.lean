import Mathlib.Data.List.Dedup
import AlonSentinel.Domain.NotificationRepository

/-! The gauges of the metrics endpoint that count failed notification deliveries. -/

namespace AlonSentinel.Api

open Domain

/-- A row of a query that counts by channel type. -/
structure ChannelTypeCount where
  channelType : NotificationChannelType
  count : Nat
  deriving DecidableEq

/-- The deliveries that the query counts for a channel type. -/
def failedDeliveries (db : Database) (channelType : NotificationChannelType)
    : List NotificationDelivery :=
  db.notificationDeliveries.rows.filter fun delivery =>
    (db.notificationChannels.find? delivery.notificationChannelId).any
      (·.channelType = channelType)
    && delivery.status = .failed

/-- The channel types of the failed deliveries, each joined with its channel. -/
def failedChannelTypes (db : Database) : List NotificationChannelType :=
  (db.notificationDeliveries.rows.filter (·.status = .failed)).filterMap fun delivery =>
    (db.notificationChannels.find? delivery.notificationChannelId).map (·.channelType)

/-- `SELECT nc.channel_type, COUNT(*) … GROUP BY nc.channel_type`. -/
def channelTypeCounts (channelTypes : List NotificationChannelType) : List ChannelTypeCount :=
  channelTypes.dedup.map fun channelType =>
    { channelType, count := channelTypes.count channelType }

/-- The gauge `alon_sentinel_notification_delivery_failures`, described as the total of permanently
failed notification deliveries by channel type. It has a value for each row of the query.
-/
def notificationDeliveryFailures (db : Database) (channelType : NotificationChannelType)
    : Option Nat :=
  ((channelTypeCounts (failedChannelTypes db)).find? (·.channelType = channelType)).map (·.count)

/-- A missing value stands for a count of zero. -/
theorem find?_channelTypeCounts (channelTypes : List NotificationChannelType)
    (channelType : NotificationChannelType)
    : (((channelTypeCounts channelTypes).find? (·.channelType = channelType)).map (·.count)).getD 0
      = channelTypes.count channelType := by
  cases found : (channelTypeCounts channelTypes).find? (·.channelType = channelType) with
  | some row =>
      have isType : row.channelType = channelType :=
        of_decide_eq_true
          (List.find?_some (p := fun row : ChannelTypeCount =>
            decide (row.channelType = channelType)) found)
      obtain ⟨counted, _, rfl⟩ := List.mem_map.mp (List.mem_of_find?_eq_some found)
      exact congrArg channelTypes.count isType
  | none =>
      have absent : channelType ∉ channelTypes := by
        intro member
        have listed
            : ⟨channelType, channelTypes.count channelType⟩ ∈ channelTypeCounts channelTypes :=
          List.mem_map_of_mem (List.mem_dedup.mpr member)
        exact List.find?_eq_none.mp found _ listed (decide_eq_true rfl)
      exact (List.count_eq_zero_of_not_mem absent).symm

/-- The gauge counts the failed deliveries of each channel type, tried again or not. -/
theorem notificationDeliveryFailures_getD (db : Database) (channelType : NotificationChannelType)
    : (notificationDeliveryFailures db channelType).getD 0
      = (failedDeliveries db channelType).length := by
  unfold notificationDeliveryFailures failedChannelTypes failedDeliveries
  rw [find?_channelTypeCounts, List.count, List.countP_filterMap, List.countP_filter,
    ← List.countP_eq_length_filter]
  refine List.countP_congr fun delivery _ => ?_
  cases db.notificationChannels.find? delivery.notificationChannelId with
  | none => simp
  | some channel => simp

end AlonSentinel.Api
