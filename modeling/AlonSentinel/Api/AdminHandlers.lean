import AlonSentinel.Api.AuthHandlers
import AlonSentinel.Domain.RoleRepository

/-! The handlers that create API clients and roles, past the authentication of the request. -/

namespace AlonSentinel.Api.Admin

open Auth
open DatabaseSession
open Domain
open UnicodeText

/-- `ApiError::internal_error`, which logs the error of a statement. -/
def internalError (_error : StatementError) : ApiError := .internal internalServerErrorMessage

------------------------------------------------------------
-- API clients
------------------------------------------------------------

structure CreatedApiClientResponse where
  client : ApiClient
  scopes : List String
  clientSecret : String

/-- The checks of the payload; they return the type of the client. -/
def validateCreateApiClient (payload : CreateApiClientRequest) : Except ApiError ApiClientType := do
  if trim payload.name = "" then throw (.badRequest "name is required")
  let clientType ← parseApiClientType payload.clientType
  validateScopes payload.scopes
  return clientType

/-- The row that is inserted for a payload. -/
def newApiClient (libraries : AuthLibraries) (entropy : Entropy) (createdBy : Int)
    (payload : CreateApiClientRequest) (clientType : ApiClientType)
    : NewApiClient :=
  let rawSecret := generateRawToken entropy.secretBytes
  { name := trim payload.name
    description := payload.description
    clientType
    clientId := "ac_" ++ String.ofList ((generateRawToken entropy.tokenBytes).toList.take 16)
    clientSecretHash := libraries.hashPassword entropy.salt rawSecret
    secretPrefix := tokenPrefix rawSecret
    createdByUserId := some s!"{createdBy}" }

def createApiClient (libraries : AuthLibraries) (entropy : Entropy) (createdBy : Int)
    (payload : CreateApiClientRequest)
    : Session StatementError AuthDatabase ApiError CreatedApiClientResponse := do
  let clientType ← .ofExcept (validateCreateApiClient payload)
  let client ←
    (insertApiClient (newApiClient libraries entropy createdBy payload clientType)).mapError
      internalError
  (replaceApiClientScopesStepwise client.id payload.scopes).mapError internalError
  return { client, scopes := payload.scopes, clientSecret := generateRawToken entropy.secretBytes }

------------------------------------------------------------
-- Roles
------------------------------------------------------------

structure CreateRoleRequest where
  key : String
  name : String
  description : Option String
  permissionKeys : List String

structure ManagedRoleResponse where
  role : ManagedRole
  permissions : List String

def validateRolePayload (key name : String) : Except ApiError Unit :=
  if trim key = "" then .error (.badRequest "key is required")
  else if trim name = "" then .error (.badRequest "name is required")
  else .ok ()

/-- All permission keys. -/
def permissionKeys : List PermissionKey :=
  [.sitesCreate, .sitesRead, .sitesUpdate, .sitesDelete, .siteMonitorsCreate, .siteMonitorsRead,
    .siteMonitorsUpdate, .siteMonitorsDelete, .siteChecksRead, .siteIncidentsRead,
    .notificationDeliveriesRead, .notificationChannelsCreate, .notificationChannelsRead,
    .notificationChannelsUpdate, .notificationChannelsDelete,
    .siteNotificationChannelOverridesCreate, .siteNotificationChannelOverridesRead,
    .siteNotificationChannelOverridesUpdate, .siteNotificationChannelOverridesDelete,
    .incidentsWrite, .usersRead, .usersWrite, .rolesRead, .rolesWrite, .apiClientsRead,
    .apiClientsWrite]

/-- `PermissionKey::from_str`: the key with this name. -/
def permissionFromStr (value : String) : Option PermissionKey :=
  permissionKeys.find? (·.asStr = value)

/-- A key that is parsed and printed again. -/
def canonicalPermissionKey (key : String) : Except ApiError String :=
  match permissionFromStr key with
  | some permission => .ok permission.asStr
  | none => .error (.badRequest "one or more permission_keys are invalid")

def resolvePermissionIds (permissionKeys : List String)
    : Session StatementError RoleDatabase ApiError (List Int) :=
  if permissionKeys.isEmpty then pure []
  else do
    let canonicalPermissionKeys ← .ofExcept (permissionKeys.mapM canonicalPermissionKey)
    let permissionRows ← (listPermissionsByKeys canonicalPermissionKeys).mapError internalError
    .ofExcept
      (if permissionRows.length ≠ canonicalPermissionKeys.length then
        .error (.internal "one or more built-in permission records are missing")
      else .ok (permissionRows.map (·.id)))

def buildManagedRoleResponse (role : ManagedRole)
    : Session StatementError RoleDatabase ApiError ManagedRoleResponse := do
  let permissions ← (listPermissionKeysForRole role.id).mapError internalError
  return { role, permissions }

/-- The row that is inserted for a payload; a blank description is none. -/
def CreateRoleRequest.newRole (payload : CreateRoleRequest) : NewRole where
  key := trim payload.key
  name := trim payload.name
  description := (payload.description.map trim).filter (!·.isEmpty)

def createRole (payload : CreateRoleRequest)
    : Session StatementError RoleDatabase ApiError ManagedRoleResponse := do
  .ofExcept (validateRolePayload payload.key payload.name)
  let permissionIds ← resolvePermissionIds payload.permissionKeys
  let role ← (insertRole payload.newRole).mapError internalError
  (replacePermissionsForRole role.id permissionIds).mapError internalError
  buildManagedRoleResponse role

end AlonSentinel.Api.Admin
