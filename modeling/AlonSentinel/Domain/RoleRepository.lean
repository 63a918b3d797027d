import AlonSentinel.Domain.AccessTokenRepository
import AlonSentinel.Foundation.DatabaseSession

/-! The statements that create API clients and roles with what belongs to them, one by one: the
parent row is inserted by a statement of its own, and its children in a transaction.
-/

namespace AlonSentinel.Domain

open DatabaseSession
open KeyedTable

/-- Why a statement fails: a constraint, or a reason outside the program. -/
inductive StatementError where
  | violates (error : DatabaseError)
  | checkViolation (constraint : String)
  | unavailable
  deriving DecidableEq

------------------------------------------------------------
-- API clients
------------------------------------------------------------

abbrev AuthSession := Session StatementError AuthDatabase StatementError

/-- The insert of `create_api_client`. -/
def insertApiClient (new : NewApiClient) : AuthSession ApiClient :=
  .statement fun db => (createApiClient db new).mapError .violates

def insertApiClientScope (apiClientId : Int) (scope : String) (db : AuthDatabase)
    : Except StatementError AuthDatabase :=
  if (db.apiClients.find? apiClientId).isNone then .error (.violates .foreignKeyViolation)
  else if ⟨apiClientId, scope⟩ ∈ db.apiClientScopes then
    .error (.violates (.uniqueViolation "uq_api_client_scopes_client_scope"))
  else .ok { db with apiClientScopes := db.apiClientScopes ++ [⟨apiClientId, scope⟩] }

def deleteApiClientScopes (apiClientId : Int) (db : AuthDatabase) : AuthDatabase :=
  { db with apiClientScopes := db.apiClientScopes.filter (·.apiClientId ≠ apiClientId) }

/-- `replace_api_client_scopes`, statement by statement. -/
def replaceApiClientScopesStepwise (apiClientId : Int) (scopes : List String) : AuthSession Unit :=
  .transaction do
    .statement fun db => .ok ((), deleteApiClientScopes apiClientId db)
    .executeAll (insertApiClientScope apiClientId) scopes

------------------------------------------------------------
-- Roles
------------------------------------------------------------

structure ManagedRole where
  id : Int
  key : String
  name : String
  description : Option String
  isSystem : Bool
  deriving DecidableEq

structure Permission where
  id : Int
  key : String
  deriving DecidableEq

/-- A row of `role_permissions`. -/
structure GrantedPermission where
  roleId : Int
  permissionId : Int
  deriving DecidableEq

/-- The tables of roles and their permissions. -/
structure RoleDatabase where
  roles : SerialTable ManagedRole ManagedRole.id
  permissions : List Permission
  rolePermissions : List GrantedPermission

abbrev RoleSession := Session StatementError RoleDatabase StatementError

/-- The characters of `chk_roles_key_format`. -/
def isRoleKeyChar (char : Char) : Bool :=
  char.isLower || char.isDigit || char ∈ ['.', '_', ':', '-']

structure NewRole where
  key : String
  name : String
  description : Option String

def NewRole.row (new : NewRole) (id : Int) : ManagedRole where
  id := id
  key := new.key
  name := new.name
  description := new.description
  isSystem := false

/-- The constraint that keeps a new role out, if there is one. -/
def NewRole.refusal (new : NewRole) (db : RoleDatabase) : Option StatementError :=
  if new.key.toList = [] || !new.key.toList.all isRoleKeyChar then
    some (.checkViolation "chk_roles_key_format")
  else if new.name.toList.all (· = ' ') then some (.checkViolation "chk_roles_name_not_blank")
  else if db.roles.rows.any (·.key = new.key) then
    some (.violates (.uniqueViolation "uq_roles_key"))
  else none

def insertRole (new : NewRole) : RoleSession ManagedRole :=
  .statement fun db =>
    match new.refusal db with
    | some error => .error error
    | none => .ok (new.row db.roles.nextId, { db with roles := db.roles.insert new.row })

/-- The columns that an update of a role sets. -/
structure RoleUpdate where
  name : String
  description : Option String

def RoleUpdate.set (update : RoleUpdate) (role : ManagedRole) : ManagedRole :=
  { role with name := update.name, description := update.description }

def updateRole (roleId : Int) (update : RoleUpdate) : RoleSession (Option ManagedRole) :=
  .statement fun db =>
    match db.roles.find? roleId with
    | none => .ok (none, db)
    | some role =>
        if update.name.toList.all (· = ' ') then .error (.checkViolation "chk_roles_name_not_blank")
        else
          .ok (some (update.set role),
            { db with roles := db.roles.update (·.id = roleId) update.set })

/-- The roles with one of the keys, by key and id. -/
def RoleDatabase.listRolesByKeys (roleKeys : List String) : RoleSession (List ManagedRole) :=
  .query fun db =>
    (db.roles.rows.filter (·.key ∈ roleKeys)).insertionSort fun first second =>
      first.key < second.key ∨ first.key = second.key ∧ first.id ≤ second.id

/-- The permissions with one of the keys, by key and id. -/
def listPermissionsByKeys (permissionKeys : List String) : RoleSession (List Permission) :=
  .query fun db =>
    (db.permissions.filter (·.key ∈ permissionKeys)).insertionSort fun first second =>
      first.key < second.key ∨ first.key = second.key ∧ first.id ≤ second.id

/-- `INSERT … ON CONFLICT DO NOTHING`. -/
def insertRolePermission (roleId permissionId : Int) (db : RoleDatabase)
    : Except StatementError RoleDatabase :=
  if ⟨roleId, permissionId⟩ ∈ db.rolePermissions then .ok db
  else if (db.roles.find? roleId).isNone || db.permissions.all (·.id ≠ permissionId) then
    .error (.violates .foreignKeyViolation)
  else .ok { db with rolePermissions := db.rolePermissions ++ [⟨roleId, permissionId⟩] }

def deleteRolePermissions (roleId : Int) (db : RoleDatabase) : RoleDatabase :=
  { db with rolePermissions := db.rolePermissions.filter (·.roleId ≠ roleId) }

def replacePermissionsForRole (roleId : Int) (permissionIds : List Int) : RoleSession Unit :=
  .transaction do
    .statement fun db => .ok ((), deleteRolePermissions roleId db)
    .executeAll (insertRolePermission roleId) permissionIds

/-- The keys of the permissions of a role, in order. -/
def listPermissionKeysForRole (roleId : Int) : RoleSession (List String) :=
  .query fun db =>
    (db.rolePermissions.flatMap fun granted =>
      if granted.roleId = roleId then
        (db.permissions.filter (·.id = granted.permissionId)).map (·.key)
      else []).insertionSort (· ≤ ·)

end AlonSentinel.Domain
