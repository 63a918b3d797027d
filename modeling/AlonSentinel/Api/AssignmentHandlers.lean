import AlonSentinel.Api.AdminHandlers
import AlonSentinel.Domain.RoleAssignments

/-! The handlers that assign roles to admin users and permissions to roles, past the authentication
of the request. Each is a program of statements, with operations on the token cache in between.
-/

namespace AlonSentinel.Api.Admin

open Auth
open DatabaseSession
open Domain
open UnicodeText

/-- The tables, the cache of tokens, and the time. -/
structure AdminServer where
  db : AdminDatabase
  cache : AuthTokenCache
  now : Timestamp

abbrev AdminRequest := Session StatementError AdminServer ApiError

/-- A statement on the tables; its error is logged. -/
def onTables {Result : Type} (session : AdminSession Result) : AdminRequest Result :=
  (session.mapError internalError).within (·.db) fun db server => { server with db }

/-- A part of a handler that needs the tables of roles only. -/
def onRoles {Result : Type} (session : Session StatementError RoleDatabase ApiError Result)
    : AdminRequest Result :=
  session.within (·.db.roleDb) fun roleDb server => { server with db := { server.db with roleDb } }

------------------------------------------------------------
-- Admin users
------------------------------------------------------------

structure ManagedAdminUserResponse where
  user : AdminUser
  roles : List String
  permissions : List String

def resolveRoleIds (roleKeys : List String)
    : Session StatementError RoleDatabase ApiError (List Int) :=
  if roleKeys.isEmpty then pure []
  else do
    let roleRows ← (RoleDatabase.listRolesByKeys roleKeys).mapError internalError
    .ofExcept
      (if roleRows.length ≠ roleKeys.length then
        .error (.badRequest "one or more role_keys are invalid")
      else .ok (roleRows.map (·.id)))

/-- Ends the cached contexts of the active tokens of a user. -/
def invalidateTokensForUser (adminUserId : Int) : AdminRequest Unit := do
  let tokens ←
    (Session.query fun server : AdminServer =>
      server.db.activeTokens server.now adminUserId).mapError internalError
  .act fun server => { server with cache := invalidateTokens server.cache tokens }

def buildManagedAdminUserResponse (user : AdminUser) : AdminRequest ManagedAdminUserResponse := do
  let roles ← onTables (AdminDatabase.listRoleKeysForAdminUser user.id)
  let permissions ← onTables (AdminDatabase.listPermissionKeysForAdminUser user.id)
  return { user, roles, permissions }

/-- A row that a statement must return. -/
def orNotFoundError {Row : Type} (message : String) : Option Row → AdminRequest Row
  | some row => pure row
  | none => .ofExcept (.error (.notFound message))

/-- The row that is inserted for a payload. -/
def newAdminUser (libraries : AuthLibraries) (salt : String) (payload : CreateAdminUserRequest)
    : NewAdminUser where
  email := trim payload.email
  displayName := trim payload.displayName
  passwordHash := libraries.hashPassword salt payload.password

/-- The transaction of `create_admin_user`: the user, its roles, and its deactivation. -/
def storeAdminUser (new : NewAdminUser) (isActive : Option Bool) (roleIds : List Int)
    : AdminRequest AdminUser :=
  .transactionWith internalError do
    let user ← onTables (AdminDatabase.createAdminUserInTx new)
    onTables (AdminDatabase.replaceRolesForAdminUserInTx user.id roleIds)
    if isActive = some false then do
      let params : AdminUserUpdateParams :=
        { email := new.email, displayName := new.displayName, passwordHash := none,
          isActive := false }
      let updated ← onTables (AdminDatabase.updateAdminUser user.id params)
      orNotFoundError "admin user not found" updated
    else pure user

def createAdminUser (libraries : AuthLibraries) (salt : String) (payload : CreateAdminUserRequest)
    : AdminRequest ManagedAdminUserResponse := do
  .ofExcept
    (validateAdminUserPayload payload.email payload.displayName (some payload.password))
  let roleIds ← onRoles (resolveRoleIds payload.roleKeys)
  let user ← storeAdminUser (newAdminUser libraries salt payload) payload.isActive roleIds
  buildManagedAdminUserResponse user

def updateAdminUser (libraries : AuthLibraries) (salt : String) (userId : Int)
    (payload : UpdateAdminUserRequest)
    : AdminRequest ManagedAdminUserResponse := do
  .ofExcept (validateAdminUserPayload payload.email payload.displayName payload.password)
  let roleIds ← onRoles (resolveRoleIds payload.roleKeys)
  let updated ← onTables (AdminDatabase.updateAdminUser userId (payload.params libraries salt))
  let user ← orNotFoundError "admin user not found" updated
  onTables (AdminDatabase.replaceRolesForAdminUser user.id roleIds)
  invalidateTokensForUser user.id
  buildManagedAdminUserResponse user

------------------------------------------------------------
-- Roles
------------------------------------------------------------

structure UpdateRoleRequest where
  name : String
  description : Option String
  permissionKeys : List String

def validateRoleName (name : String) : Except ApiError Unit :=
  if trim name = "" then .error (.badRequest "name is required") else .ok ()

/-- What an update of a role sets; a blank description is none. -/
def UpdateRoleRequest.update (payload : UpdateRoleRequest) : RoleUpdate where
  name := trim payload.name
  description := (payload.description.map trim).filter (!·.isEmpty)

def updateRole (roleId : Int) (payload : UpdateRoleRequest) : AdminRequest ManagedRoleResponse := do
  .ofExcept (validateRoleName payload.name)
  let permissionIds ← onRoles (resolvePermissionIds payload.permissionKeys)
  let updated ← onRoles ((Domain.updateRole roleId payload.update).mapError internalError)
  let role ← orNotFoundError "role not found" updated
  let affectedUserIds ← onTables (AdminDatabase.listAdminUserIdsForRole role.id)
  onRoles ((replacePermissionsForRole role.id permissionIds).mapError internalError)
  affectedUserIds.forM invalidateTokensForUser
  onRoles (buildManagedRoleResponse role)

end AlonSentinel.Api.Admin
