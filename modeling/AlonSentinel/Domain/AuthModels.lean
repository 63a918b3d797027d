import AlonSentinel.Domain.Models

/-! The stored rows behind authentication: admin users with their roles, API clients with their
scopes, and the access tokens of both. Columns that are only written are left out.
-/

namespace AlonSentinel.Domain

open KeyedTable

inductive PermissionKey where
  | sitesCreate
  | sitesRead
  | sitesUpdate
  | sitesDelete
  | siteMonitorsCreate
  | siteMonitorsRead
  | siteMonitorsUpdate
  | siteMonitorsDelete
  | siteChecksRead
  | siteIncidentsRead
  | notificationDeliveriesRead
  | notificationChannelsCreate
  | notificationChannelsRead
  | notificationChannelsUpdate
  | notificationChannelsDelete
  | siteNotificationChannelOverridesCreate
  | siteNotificationChannelOverridesRead
  | siteNotificationChannelOverridesUpdate
  | siteNotificationChannelOverridesDelete
  | incidentsWrite
  | usersRead
  | usersWrite
  | rolesRead
  | rolesWrite
  | apiClientsRead
  | apiClientsWrite
  deriving DecidableEq

def PermissionKey.asStr : PermissionKey → String
  | .sitesCreate => "sites.create"
  | .sitesRead => "sites.read"
  | .sitesUpdate => "sites.update"
  | .sitesDelete => "sites.delete"
  | .siteMonitorsCreate => "site_monitors.create"
  | .siteMonitorsRead => "site_monitors.read"
  | .siteMonitorsUpdate => "site_monitors.update"
  | .siteMonitorsDelete => "site_monitors.delete"
  | .siteChecksRead => "site_checks.read"
  | .siteIncidentsRead => "site_incidents.read"
  | .notificationDeliveriesRead => "notification_deliveries.read"
  | .notificationChannelsCreate => "notification_channels.create"
  | .notificationChannelsRead => "notification_channels.read"
  | .notificationChannelsUpdate => "notification_channels.update"
  | .notificationChannelsDelete => "notification_channels.delete"
  | .siteNotificationChannelOverridesCreate => "site_notification_channel_overrides.create"
  | .siteNotificationChannelOverridesRead => "site_notification_channel_overrides.read"
  | .siteNotificationChannelOverridesUpdate => "site_notification_channel_overrides.update"
  | .siteNotificationChannelOverridesDelete => "site_notification_channel_overrides.delete"
  | .incidentsWrite => "incidents.write"
  | .usersRead => "users.read"
  | .usersWrite => "users.write"
  | .rolesRead => "roles.read"
  | .rolesWrite => "roles.write"
  | .apiClientsRead => "api_clients.read"
  | .apiClientsWrite => "api_clients.write"

/-- A set of permissions, in no particular order. -/
abbrev PermissionSet := List PermissionKey

structure AdminUser where
  id : Int
  email : String
  displayName : String
  passwordHash : String
  isActive : Bool
  deriving DecidableEq

structure Role where
  id : Int
  key : String
  deriving DecidableEq

structure AdminUserRole where
  adminUserId : Int
  roleId : Int
  deriving DecidableEq

structure RolePermission where
  roleId : Int
  permission : PermissionKey
  deriving DecidableEq

inductive ApiClientType where
  | internalService
  | installationClient
  deriving DecidableEq

structure ApiClient where
  id : Int
  name : String
  description : Option String
  clientType : ApiClientType
  clientId : String
  clientSecretHash : String
  secretPrefix : String
  isActive : Bool
  createdByUserId : Option String
  deriving DecidableEq

structure ApiClientScope where
  apiClientId : Int
  scope : String
  deriving DecidableEq

/-- What a token is issued to. -/
inductive PrincipalKind where
  | adminUser
  | apiClient
  deriving DecidableEq

structure Principal where
  kind : PrincipalKind
  id : Int
  deriving DecidableEq

/-- A row of `admin_access_tokens` or `access_tokens`; `ownerId` is the column `admin_user_id` of
the one and `api_client_id` of the other.
-/
structure StoredToken where
  id : Int
  ownerId : Int
  tokenHash : String
  tokenPrefix : String
  expiresAt : Timestamp
  revokedAt : Option Timestamp
  revokedReason : Option String
  deriving DecidableEq

abbrev AdminAccessToken := StoredToken

abbrev AccessToken := StoredToken

/-- The tables that authentication works on, the two token tables by the kind of owner. -/
structure AuthDatabase where
  adminUsers : SerialTable AdminUser AdminUser.id
  roles : List Role
  adminUserRoles : List AdminUserRole
  rolePermissions : List RolePermission
  apiClients : SerialTable ApiClient ApiClient.id
  apiClientScopes : List ApiClientScope
  tokens : PrincipalKind → SerialTable StoredToken StoredToken.id

/-- Replaces the token table of one kind. -/
def AuthDatabase.setTokens (db : AuthDatabase) (kind : PrincipalKind)
    (table : SerialTable StoredToken StoredToken.id)
    : AuthDatabase :=
  { db with tokens := Function.update db.tokens kind table }

theorem AuthDatabase.setTokens_self {db : AuthDatabase} {kind : PrincipalKind}
    {table : SerialTable StoredToken StoredToken.id}
    : (db.setTokens kind table).tokens kind = table := by
  simp only [setTokens, Function.update_self]

theorem AuthDatabase.setTokens_of_ne {db : AuthDatabase} {kind other : PrincipalKind}
    {table : SerialTable StoredToken StoredToken.id} (different : other ≠ kind)
    : (db.setTokens kind table).tokens other = db.tokens other := by
  simp only [setTokens, Function.update_of_ne different]

/-- Whether a principal exists and is active. -/
def AuthDatabase.isActive (db : AuthDatabase) (principal : Principal) : Bool :=
  match principal.kind with
  | .adminUser => (db.adminUsers.find? principal.id).any (·.isActive)
  | .apiClient => (db.apiClients.find? principal.id).any (·.isActive)

end AlonSentinel.Domain
