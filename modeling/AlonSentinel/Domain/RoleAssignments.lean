import AlonSentinel.Domain.AdminUserRepository
import AlonSentinel.Domain.RoleRepository

/-! The statements that store admin users and the roles assigned to them, one by one. -/

namespace AlonSentinel.Domain

open DatabaseSession
open KeyedTable

/-- The tables of admin users, their roles and tokens, and of what the roles permit. -/
structure AdminDatabase where
  adminUsers : SerialTable AdminUser AdminUser.id
  adminUserRoles : List AdminUserRole
  roleDb : RoleDatabase
  tokens : SerialTable AdminAccessToken StoredToken.id

abbrev AdminSession := Session StatementError AdminDatabase StatementError

namespace AdminDatabase

------------------------------------------------------------
-- Admin users
------------------------------------------------------------

/-- The constraint that keeps the row of a user out, if there is one. -/
def refusal (db : AdminDatabase) (user : AdminUser) : Option StatementError :=
  let isBlank (text : String) : Bool := text.toList.all (· = ' ')
  if isBlank user.displayName then some (.checkViolation "chk_admin_users_display_name_not_blank")
  else if isBlank user.email then some (.checkViolation "chk_admin_users_email_not_blank")
  else if isBlank user.passwordHash then
    some (.checkViolation "chk_admin_users_password_hash_not_blank")
  else if db.adminUsers.rows.any fun other => other.id != user.id && other.email = user.email then
    some (.violates (.uniqueViolation "uq_admin_users_email"))
  else none

def createAdminUserInTx (new : NewAdminUser) : AdminSession AdminUser :=
  .statement fun db =>
    match db.refusal (new.row db.adminUsers.nextId) with
    | some error => .error error
    | none =>
        .ok (new.row db.adminUsers.nextId,
          { db with adminUsers := db.adminUsers.insert new.row new.id_row })

/-- `update_admin_user`, which `update_admin_user_in_tx` executes in a transaction. -/
def updateAdminUser (adminUserId : Int) (params : AdminUserUpdateParams)
    : AdminSession (Option AdminUser) :=
  .statement fun db =>
    match db.adminUsers.find? adminUserId with
    | none => .ok (none, db)
    | some user =>
        match db.refusal (params.set user) with
        | some error => .error error
        | none =>
            .ok (some (params.set user),
              { db with
                adminUsers :=
                  db.adminUsers.update (·.id = adminUserId) params.set
                    (params.set_keeps adminUserId) })

------------------------------------------------------------
-- Their roles
------------------------------------------------------------

def deleteAdminUserRoles (adminUserId : Int) (db : AdminDatabase) : AdminDatabase :=
  { db with adminUserRoles := db.adminUserRoles.filter (·.adminUserId ≠ adminUserId) }

/-- `INSERT … ON CONFLICT DO NOTHING`. -/
def insertAdminUserRole (adminUserId roleId : Int) (db : AdminDatabase)
    : Except StatementError AdminDatabase :=
  if ⟨adminUserId, roleId⟩ ∈ db.adminUserRoles then .ok db
  else if (db.adminUsers.find? adminUserId).isNone || (db.roleDb.roles.find? roleId).isNone then
    .error (.violates .foreignKeyViolation)
  else .ok { db with adminUserRoles := db.adminUserRoles ++ [⟨adminUserId, roleId⟩] }

def replaceRolesForAdminUserInTx (adminUserId : Int) (roleIds : List Int) : AdminSession Unit := do
  .statement fun db => .ok ((), deleteAdminUserRoles adminUserId db)
  .executeAll (insertAdminUserRole adminUserId) roleIds

def replaceRolesForAdminUser (adminUserId : Int) (roleIds : List Int) : AdminSession Unit :=
  .transaction (replaceRolesForAdminUserInTx adminUserId roleIds)

/-- The keys of the roles of a user, in order. -/
def listRoleKeysForAdminUser (adminUserId : Int) : AdminSession (List String) :=
  .query fun db =>
    (db.adminUserRoles.flatMap fun assigned =>
      if assigned.adminUserId = adminUserId then
        (db.roleDb.roles.rows.filter (·.id = assigned.roleId)).map (·.key)
      else []).insertionSort (· ≤ ·)

/-- The distinct keys of the permissions that the roles of a user grant, in order. -/
def listPermissionKeysForAdminUser (adminUserId : Int) : AdminSession (List String) :=
  .query fun db =>
    let roleIds := (db.adminUserRoles.filter (·.adminUserId = adminUserId)).map (·.roleId)
    let granted := db.roleDb.rolePermissions.filter (·.roleId ∈ roleIds)
    ((db.roleDb.permissions.filter fun permission =>
      granted.any (·.permissionId = permission.id)).map (·.key)).dedup.insertionSort (· ≤ ·)

def listAdminUserIdsForRole (roleId : Int) : AdminSession (List Int) :=
  .query fun db => (db.adminUserRoles.filter (·.roleId = roleId)).map (·.adminUserId)

/-- The tokens of a user that are neither revoked nor expired at a time. -/
def activeTokens (db : AdminDatabase) (now : Timestamp) (adminUserId : Int)
    : List AdminAccessToken :=
  db.tokens.rows.filter fun token =>
    token.ownerId = adminUserId && token.revokedAt.isNone && now < token.expiresAt

end AdminDatabase

end AlonSentinel.Domain
