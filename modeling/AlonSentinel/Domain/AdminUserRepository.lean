import AlonSentinel.Domain.AuthModels
import AlonSentinel.Foundation.Fallible

/-! The statements on admin users and their roles. -/

namespace AlonSentinel.Domain

open KeyedTable

structure NewAdminUser where
  email : String
  displayName : String
  passwordHash : String

structure AdminUserUpdateParams where
  email : String
  displayName : String
  passwordHash : Option String
  isActive : Bool

/-- Whether another user than `adminUserId` has the email (`uq_admin_users_email`). -/
def emailTaken (db : AuthDatabase) (adminUserId : Int) (email : String) : Bool :=
  db.adminUsers.rows.any fun other => other.id != adminUserId && other.email = email

/-- The row that an insert stores under an id. -/
def NewAdminUser.row (new : NewAdminUser) (id : Int) : AdminUser where
  id := id
  email := new.email
  displayName := new.displayName
  passwordHash := new.passwordHash
  isActive := true

/-- The set list of an update. -/
def AdminUserUpdateParams.set (params : AdminUserUpdateParams) (user : AdminUser) : AdminUser :=
  { user with
    email := params.email
    displayName := params.displayName
    passwordHash := params.passwordHash.getD user.passwordHash
    isActive := params.isActive }

theorem NewAdminUser.id_row (new : NewAdminUser) (id : Int) : (new.row id).id = id := rfl

theorem AdminUserUpdateParams.set_keeps (params : AdminUserUpdateParams) (adminUserId : Int)
    (user : AdminUser) (_ : decide (user.id = adminUserId) = true)
    : (params.set user).id = user.id :=
  rfl

def createAdminUserInTx (db : AuthDatabase) (new : NewAdminUser)
    : Except DatabaseError (AdminUser × AuthDatabase) :=
  let id := db.adminUsers.nextId
  if emailTaken db id new.email then .error (.uniqueViolation "uq_admin_users_email")
  else .ok (new.row id, { db with adminUsers := db.adminUsers.insert new.row })

def updateAdminUser (db : AuthDatabase) (adminUserId : Int) (params : AdminUserUpdateParams)
    : Except DatabaseError (Option AdminUser × AuthDatabase) :=
  match db.adminUsers.find? adminUserId with
  | none => .ok (none, db)
  | some user =>
      if emailTaken db adminUserId params.email then
        .error (.uniqueViolation "uq_admin_users_email")
      else
        .ok (some (params.set user),
          { db with adminUsers := db.adminUsers.update (·.id = adminUserId) params.set })

/-- Deletes a user, and with it the roles and tokens of the user. -/
def deleteAdminUser (db : AuthDatabase) (adminUserId : Int) : Option AdminUser × AuthDatabase :=
  match db.adminUsers.find? adminUserId with
  | none => (none, db)
  | some user =>
      (some user,
        { db with
          adminUsers := db.adminUsers.delete (·.id = adminUserId)
          adminUserRoles := db.adminUserRoles.filter (·.adminUserId ≠ adminUserId)
          tokens :=
            Function.update db.tokens .adminUser
              ((db.tokens .adminUser).delete (·.ownerId = adminUserId)) })

def countActiveAdminUsers (db : AuthDatabase) : Nat := db.adminUsers.rows.countP (·.isActive)

/-- The first user that the comparison without regard to case finds. -/
def getAdminUserByEmail (lower : String → String) (db : AuthDatabase) (email : String)
    : Option AdminUser :=
  db.adminUsers.rows.find? fun user => lower user.email = lower email

------------------------------------------------------------
-- Roles
------------------------------------------------------------

def listRolesByKeys (db : AuthDatabase) (roleKeys : List String) : List Role :=
  db.roles.filter (·.key ∈ roleKeys)

def listRoleKeysForAdminUser (db : AuthDatabase) (adminUserId : Int) : List String :=
  (db.roles.filter fun role => ⟨adminUserId, role.id⟩ ∈ db.adminUserRoles).map (·.key)

def listPermissionKeysForAdminUser (db : AuthDatabase) (adminUserId : Int) : PermissionSet :=
  (db.rolePermissions.filter fun granted => ⟨adminUserId, granted.roleId⟩ ∈ db.adminUserRoles).map
    (·.permission)

/-- Replaces the roles of a user in one transaction. -/
def replaceRolesForAdminUser (db : AuthDatabase) (adminUserId : Int) (roleIds : List Int)
    : Except DatabaseError AuthDatabase :=
  let known := (db.adminUsers.find? adminUserId).isSome
    && roleIds.all fun roleId => db.roles.any (·.id = roleId)
  if roleIds.isEmpty || known then
    .ok
      { db with
        adminUserRoles :=
          db.adminUserRoles.filter (·.adminUserId ≠ adminUserId)
            ++ roleIds.dedup.map fun roleId => ⟨adminUserId, roleId⟩ }
  else .error .foreignKeyViolation

/-- The transaction that creates a user: with its roles, and inactive if asked to. -/
def createAdminUserWithRoles (db : AuthDatabase) (new : NewAdminUser) (isActive : Option Bool)
    (roleIds : List Int)
    : Except DatabaseError AuthDatabase := do
  let (user, created) ← createAdminUserInTx db new
  let assigned ← replaceRolesForAdminUser created user.id roleIds
  if isActive = some false then
    let params : AdminUserUpdateParams :=
      { email := new.email, displayName := new.displayName, passwordHash := none
        isActive := false }
    match ← updateAdminUser assigned user.id params with
    | (some _, updated) => return updated
    | (none, _) => throw .rowNotFound
  else return assigned

------------------------------------------------------------
-- What the statements do
------------------------------------------------------------

variable {db after : AuthDatabase} {adminUserId : Int} {roleIds : List Int}

theorem createAdminUserInTx_ok {new : NewAdminUser} {user : AdminUser}
    (ok : createAdminUserInTx db new = .ok (user, after))
    : user = new.row db.adminUsers.nextId
      ∧ after = { db with adminUsers := db.adminUsers.insert new.row } := by
  unfold createAdminUserInTx at ok
  simp only at ok
  split at ok
  · cases ok
  · cases ok
    exact ⟨rfl, rfl⟩

/-- An update that returns a row has set that row. -/
theorem updateAdminUser_ok {params : AdminUserUpdateParams} {user : AdminUser}
    (ok : updateAdminUser db adminUserId params = .ok (some user, after))
    : (∃ stored, db.adminUsers.find? adminUserId = some stored ∧ user = params.set stored)
      ∧ after = { db with adminUsers := db.adminUsers.update (·.id = adminUserId) params.set } := by
  unfold updateAdminUser at ok
  split at ok
  · cases ok
  · rename_i stored found
    split at ok
    · cases ok
    · cases ok
      exact ⟨⟨stored, found, rfl⟩, rfl⟩

/-- A deletion that returns a row has deleted that row, with what refers to it. -/
theorem deleteAdminUser_some {user : AdminUser}
    (deleted : deleteAdminUser db adminUserId = (some user, after))
    : db.adminUsers.find? adminUserId = some user
      ∧ after
        = { db with
            adminUsers := db.adminUsers.delete (·.id = adminUserId)
            adminUserRoles := db.adminUserRoles.filter (·.adminUserId ≠ adminUserId)
            tokens :=
              Function.update db.tokens .adminUser
                ((db.tokens .adminUser).delete (·.ownerId = adminUserId)) } := by
  unfold deleteAdminUser at deleted
  split at deleted
  · cases deleted
  · cases deleted
    exact ⟨‹_›, rfl⟩

theorem replaceRolesForAdminUser_ok
    (ok : replaceRolesForAdminUser db adminUserId roleIds = .ok after)
    : ∃ adminUserRoles, after = { db with adminUserRoles } := by
  simp only [replaceRolesForAdminUser] at ok
  split at ok
  · cases ok
    exact ⟨_, rfl⟩
  · cases ok

/-- The row of a user who is created with roles. -/
def NewAdminUser.created (new : NewAdminUser) (isActive : Option Bool) (id : Int) : AdminUser :=
  { new.row id with isActive := decide (isActive ≠ some false) }

/-- Creating a user with roles adds one row to the users, and none elsewhere but for roles. -/
theorem createAdminUserWithRoles_ok {new : NewAdminUser} {isActive : Option Bool}
    (ok : createAdminUserWithRoles db new isActive roleIds = .ok after)
    : ∃ adminUsers adminUserRoles,
        after = { db with adminUsers, adminUserRoles }
        ∧ adminUsers.rows
          = db.adminUsers.rows ++ [new.created isActive db.adminUsers.nextId]
        ∧ adminUsers.nextId = db.adminUsers.nextId + 1 := by
  obtain ⟨⟨user, created⟩, isCreated, ok⟩ := Fallible.bind_eq_ok.mp ok
  obtain ⟨assigned, replaced, ok⟩ := Fallible.bind_eq_ok.mp ok
  obtain ⟨rfl, rfl⟩ := createAdminUserInTx_ok isCreated
  obtain ⟨adminUserRoles, rfl⟩ := replaceRolesForAdminUser_ok replaced
  split at ok
  · rename_i inactive
    obtain ⟨⟨row, updated⟩, isUpdated, ok⟩ := Fallible.bind_eq_ok.mp ok
    cases row with
    | none => cases ok
    | some row =>
        cases ok
        obtain ⟨_, rfl⟩ := updateAdminUser_ok isUpdated
        refine ⟨_, adminUserRoles, rfl, ?_, rfl⟩
        have others
            : db.adminUsers.rows.map
                (fun stored =>
                  if decide (stored.id = db.adminUsers.nextId) then
                    AdminUserUpdateParams.set ⟨new.email, new.displayName, none, false⟩ stored
                  else stored)
              = db.adminUsers.rows := by
          refine (List.map_congr_left fun stored isStored => if_neg ?_).trans (List.map_id' _)
          simpa using ne_of_lt (db.adminUsers.belowNext stored isStored)
        refine List.map_append.trans (congrArg₂ (· ++ ·) others ?_)
        simp [NewAdminUser.created, NewAdminUser.row, AdminUserUpdateParams.set, inactive]
  · rename_i active
    cases ok
    refine ⟨_, adminUserRoles, rfl, ?_, rfl⟩
    have isActive' : new.created isActive db.adminUsers.nextId = new.row db.adminUsers.nextId := by
      simp [NewAdminUser.created, NewAdminUser.row, active]
    rw [isActive']
    rfl

end AlonSentinel.Domain
