import AlonSentinel.Api.AssignmentHandlers

/-! The unique keys of roles and permissions. The requests on admin users and roles keep them,
however far they get.
-/

namespace AlonSentinel.System

open Api
open Api.Admin
open DatabaseSession
open DatabaseSession.Session
open Domain
open KeyedTable

/-- The unique columns of roles and permissions beside their ids. -/
structure UniqueKeys (db : RoleDatabase) : Prop where
  roles : (db.roles.rows.map (·.key)).Nodup
  permissions : (db.permissions.map (·.key)).Nodup

------------------------------------------------------------
-- Statements
------------------------------------------------------------

theorem onTables_keeps {Result : Type} {session : AdminSession Result}
    (keeps : session.Keeps fun db => UniqueKeys db.roleDb)
    : (onTables session).Keeps fun server => UniqueKeys server.db.roleDb :=
  keeps.mapError.within (fun _ unique => unique) fun _ _ unique _ => unique

theorem onRoles_keeps {Result : Type}
    {session : Session StatementError RoleDatabase ApiError Result}
    (keeps : session.Keeps UniqueKeys)
    : (onRoles session).Keeps fun server => UniqueKeys server.db.roleDb :=
  keeps.within (fun _ unique => unique) fun _ _ unique _ => unique

/-- A statement that leaves the tables of roles alone keeps their unique keys. -/
theorem keeps_uniqueKeys_of_leaves {Result : Type}
    {execute : AdminDatabase → Except StatementError (Result × AdminDatabase)}
    (leaves : ∀ db result after, execute db = .ok (result, after) → after.roleDb = db.roleDb)
    : (statement execute).Keeps fun db => UniqueKeys db.roleDb :=
  keeps_statement fun db result after executed unique =>
    (leaves db result after executed).symm ▸ unique

theorem createAdminUserInTx_keeps (new : NewAdminUser)
    : (AdminDatabase.createAdminUserInTx new).Keeps fun db => UniqueKeys db.roleDb := by
  apply keeps_uniqueKeys_of_leaves
  intro db user after executed
  split at executed
  · cases executed
  · cases executed
    rfl

theorem updateAdminUser_keeps (adminUserId : Int) (params : AdminUserUpdateParams)
    : (AdminDatabase.updateAdminUser adminUserId params).Keeps fun db => UniqueKeys db.roleDb := by
  apply keeps_uniqueKeys_of_leaves
  intro db user after executed
  split at executed
  · cases executed
    rfl
  · split at executed
    · cases executed
    · cases executed
      rfl

theorem replaceRolesForAdminUserInTx_keeps (adminUserId : Int) (roleIds : List Int)
    : (AdminDatabase.replaceRolesForAdminUserInTx adminUserId roleIds).Keeps
        fun db => UniqueKeys db.roleDb := by
  apply Keeps.bind
  · apply keeps_uniqueKeys_of_leaves
    intro db _ after executed
    cases executed
    rfl
  · intro _
    apply keeps_executeAll
    intro roleId db after executed unique
    unfold AdminDatabase.insertAdminUserRole at executed
    split at executed
    · cases executed
      exact unique
    · split at executed
      · cases executed
      · cases executed
        exact unique

theorem orNotFoundError_keeps {Row : Type} (message : String) (row : Option Row)
    : (orNotFoundError message row).Keeps fun server => UniqueKeys server.db.roleDb := by
  cases row with
  | none => exact (readOnly_ofExcept _).keeps
  | some row => exact (readOnly_pure row).keeps

theorem resolveRoleIds_keeps (roleKeys : List String)
    : (Admin.resolveRoleIds roleKeys).Keeps UniqueKeys := by
  unfold Admin.resolveRoleIds
  split
  · exact (readOnly_pure []).keeps
  · exact ((readOnly_query _).mapError.keeps).bind fun _ => (readOnly_ofExcept _).keeps

theorem resolvePermissionIds_keeps (permissionKeys : List String)
    : (resolvePermissionIds permissionKeys).Keeps UniqueKeys := by
  unfold resolvePermissionIds
  split
  · exact (readOnly_pure []).keeps
  · exact (readOnly_ofExcept _).keeps.bind fun _ =>
      ((readOnly_query _).mapError.keeps).bind fun _ => (readOnly_ofExcept _).keeps

theorem invalidateTokensForUser_keeps (adminUserId : Int)
    : (invalidateTokensForUser adminUserId).Keeps fun server => UniqueKeys server.db.roleDb :=
  ((readOnly_query _).mapError.keeps).bind fun _ => keeps_act fun _ unique => unique

theorem buildManagedAdminUserResponse_keeps (user : AdminUser)
    : (buildManagedAdminUserResponse user).Keeps fun server => UniqueKeys server.db.roleDb := by
  apply (onTables_keeps (readOnly_query _).keeps).bind
  intro roles
  apply (onTables_keeps (readOnly_query _).keeps).bind
  exact fun permissions => (readOnly_pure _).keeps

theorem storeAdminUser_keeps (new : NewAdminUser) (isActive : Option Bool) (roleIds : List Int)
    : (storeAdminUser new isActive roleIds).Keeps fun server => UniqueKeys server.db.roleDb := by
  apply Keeps.transactionWith
  apply (onTables_keeps (createAdminUserInTx_keeps new)).bind
  intro user
  apply (onTables_keeps (replaceRolesForAdminUserInTx_keeps _ roleIds)).bind
  intro _
  split
  · exact (onTables_keeps (updateAdminUser_keeps _ _)).bind fun _ => orNotFoundError_keeps _ _
  · exact (readOnly_pure user).keeps

/-- An inserted role has a new key. -/
theorem insertRole_keeps (new : NewRole) : (insertRole new).Keeps UniqueKeys := by
  apply keeps_statement
  intro db role after executed unique
  cases refused : new.refusal db with
  | some error => simp [refused] at executed
  | none =>
      simp only [refused, Except.ok.injEq, Prod.mk.injEq] at executed
      obtain ⟨_, rfl⟩ := executed
      have notTaken : ∀ role ∈ db.roles.rows, role.key ≠ new.key := by
        unfold NewRole.refusal at refused
        split at refused
        · cases refused
        · split at refused
          · cases refused
          · split at refused
            · cases refused
            · next notTaken => simpa using notTaken
      refine ⟨?_, unique.permissions⟩
      change ((db.roles.rows ++ [new.row db.roles.nextId]).map (·.key)).Nodup
      rw [List.map_append, List.map_singleton]
      apply List.Nodup.append unique.roles (List.nodup_singleton _)
      rw [List.disjoint_singleton]
      intro member
      obtain ⟨role, stored, isKey⟩ := List.mem_map.mp member
      exact notTaken role stored isKey

/-- An updated role keeps its key. -/
theorem updateRole_keeps (roleId : Int) (update : RoleUpdate)
    : (Domain.updateRole roleId update).Keeps UniqueKeys := by
  apply keeps_statement
  intro db role after executed unique
  split at executed
  · cases executed
    exact unique
  · split at executed
    · cases executed
    · cases executed
      refine ⟨?_, unique.permissions⟩
      have sameKeys
          : (db.roles.update (·.id = roleId) update.set).rows.map (·.key)
            = db.roles.rows.map (·.key) := by
        change
          ((db.roles.rows.map fun row =>
              if decide (row.id = roleId) = true then update.set row else row).map (·.key)) = _
        rw [List.map_map]
        refine List.map_congr_left fun row _ => ?_
        by_cases met : row.id = roleId
        · simp [met, RoleUpdate.set]
        · simp [met]
      exact sameKeys ▸ unique.roles

theorem replacePermissionsForRole_keeps (roleId : Int) (permissionIds : List Int)
    : (replacePermissionsForRole roleId permissionIds).Keeps UniqueKeys := by
  apply Keeps.transaction
  apply Keeps.bind
  · apply keeps_statement
    intro db _ after executed unique
    cases executed
    exact ⟨unique.roles, unique.permissions⟩
  · intro _
    apply keeps_executeAll
    intro permissionId db after executed unique
    unfold insertRolePermission at executed
    split at executed
    · cases executed
      exact unique
    · split at executed
      · cases executed
      · cases executed
        exact ⟨unique.roles, unique.permissions⟩

theorem buildManagedRoleResponse_keeps (role : ManagedRole)
    : (buildManagedRoleResponse role).Keeps UniqueKeys :=
  ((readOnly_query _).mapError.keeps).bind fun _ => (readOnly_pure _).keeps

/-- However far they get, the requests on users and roles keep the unique keys. -/
theorem requests_keep_uniqueKeys
    : (∀ libraries salt payload,
        (createAdminUser libraries salt payload).Keeps fun server => UniqueKeys server.db.roleDb)
      ∧ (∀ libraries salt userId payload,
          (Admin.updateAdminUser libraries salt userId payload).Keeps
            fun server => UniqueKeys server.db.roleDb)
      ∧ (∀ payload, (createRole payload).Keeps UniqueKeys)
      ∧ ∀ roleId payload,
          (Admin.updateRole roleId payload).Keeps fun server => UniqueKeys server.db.roleDb := by
  refine ⟨?_, ?_, ?_, ?_⟩
  · intro libraries salt payload
    unfold createAdminUser
    refine Keeps.bind (readOnly_ofExcept _).keeps ?_
    intro _
    apply (onRoles_keeps (resolveRoleIds_keeps _)).bind
    intro roleIds
    apply (storeAdminUser_keeps _ _ roleIds).bind
    exact fun user => buildManagedAdminUserResponse_keeps user
  · intro libraries salt userId payload
    unfold Admin.updateAdminUser
    refine Keeps.bind (readOnly_ofExcept _).keeps ?_
    intro _
    apply (onRoles_keeps (resolveRoleIds_keeps _)).bind
    intro roleIds
    apply (onTables_keeps (updateAdminUser_keeps userId _)).bind
    intro updated
    apply (orNotFoundError_keeps _ updated).bind
    intro user
    apply (onTables_keeps (replaceRolesForAdminUserInTx_keeps user.id roleIds).transaction).bind
    intro _
    apply (invalidateTokensForUser_keeps user.id).bind
    exact fun _ => buildManagedAdminUserResponse_keeps user
  · intro payload
    unfold createRole
    refine Keeps.bind (readOnly_ofExcept _).keeps ?_
    intro _
    apply (resolvePermissionIds_keeps _).bind
    intro permissionIds
    apply (insertRole_keeps _).mapError.bind
    intro role
    apply (replacePermissionsForRole_keeps role.id permissionIds).mapError.bind
    exact fun _ => buildManagedRoleResponse_keeps role
  · intro roleId payload
    unfold Admin.updateRole
    refine Keeps.bind (readOnly_ofExcept _).keeps ?_
    intro _
    apply (onRoles_keeps (resolvePermissionIds_keeps _)).bind
    intro permissionIds
    apply (onRoles_keeps (updateRole_keeps roleId _).mapError).bind
    intro updated
    apply (orNotFoundError_keeps _ updated).bind
    intro role
    apply (onTables_keeps (readOnly_query _).keeps).bind
    intro affectedUserIds
    apply (onRoles_keeps (replacePermissionsForRole_keeps role.id permissionIds).mapError).bind
    intro _
    apply (keeps_forM invalidateTokensForUser_keeps).bind
    exact fun _ => onRoles_keeps (buildManagedRoleResponse_keeps role)

end AlonSentinel.System
