import AlonSentinel.System.AuthSystem
import AlonSentinel.System.UniqueRoleKeys

/-! Assigning roles to admin users and permissions to roles by lists of keys. The keys are resolved
by counting: the query returns each stored key once, and so a list with a repeated key is refused,
although the statements that store the assignment would pass over the repetition.
-/

namespace AlonSentinel.System

open Api
open Api.Admin
open Auth
open DatabaseSession
open DatabaseSession.Session
open Domain
open KeyedTable
open UnicodeText

/-- Two lists have the same elements. -/
def SameElements (keys other : List String) : Prop := ∀ key, key ∈ keys ↔ key ∈ other

/-- Two runs are both accepted or both rejected, and leave the same assignments. -/
structure AssignedAlike {Response : Type} (ran other : Ran AdminServer ApiError Response)
    : Prop where
  accepted : ran.result.toOption.isSome = other.result.toOption.isSome
  adminUserRoles : ran.db.db.adminUserRoles = other.db.db.adminUserRoles
  rolePermissions : ran.db.db.roleDb.rolePermissions = other.db.db.roleDb.rolePermissions

theorem AssignedAlike.of_eq {Response : Type} {ran other : Ran AdminServer ApiError Response}
    (same : ran = other)
    : AssignedAlike ran other :=
  same ▸ ⟨rfl, rfl, rfl⟩

/-- With either list of role keys, a request that creates or updates an admin user has the same
outcome.
-/
def RolesAssignedAlike (server : AdminServer) (keys other : List String) : Prop :=
  ∀ libraries salt faults,
    (∀ payload : CreateAdminUserRequest,
      AssignedAlike
        ((createAdminUser libraries salt { payload with roleKeys := keys }).run faults 0 server)
        ((createAdminUser libraries salt { payload with roleKeys := other }).run faults 0 server))
    ∧ ∀ userId (payload : UpdateAdminUserRequest),
        AssignedAlike
          ((Admin.updateAdminUser libraries salt userId { payload with roleKeys := keys }).run
            faults 0 server)
          ((Admin.updateAdminUser libraries salt userId { payload with roleKeys := other }).run
            faults 0 server)

/-- With either list of permission keys, a request that creates or updates a role has the same
outcome.
-/
def PermissionsAssignedAlike (server : AdminServer) (keys other : List String) : Prop :=
  ∀ faults,
    (∀ payload : CreateRoleRequest,
      AssignedAlike
        ((onRoles (createRole { payload with permissionKeys := keys })).run faults 0 server)
        ((onRoles (createRole { payload with permissionKeys := other })).run faults 0 server))
    ∧ ∀ roleId (payload : UpdateRoleRequest),
        AssignedAlike
          ((Admin.updateRole roleId { payload with permissionKeys := keys }).run faults 0 server)
          ((Admin.updateRole roleId { payload with permissionKeys := other }).run faults 0 server)

------------------------------------------------------------
-- Resolving keys by counting rows
------------------------------------------------------------

section Resolution

variable {Row : Type} {db : RoleDatabase} {keys other : List String}
  {faults : Nat → Option StatementError} {index : Nat}

/-- The shape of both resolutions: the rows of a query, unless they are not as many as keys. -/
def resolveCounted (read : RoleDatabase → List Row) (id : Row → Int) (refusal : ApiError)
    (count : Nat)
    : Session StatementError RoleDatabase ApiError (List Int) := do
  let rows ← (Session.query read).mapError internalError
  .ofExcept (if rows.length ≠ count then .error refusal else .ok (rows.map id))

/-- The rows of a table with one of the keys, by key and id. -/
def rowsWithKey (key : Row → String) (id : Row → Int) (keys : List String) (rows : List Row)
    : List Row :=
  (rows.filter (key · ∈ keys)).insertionSort fun first second =>
    key first < key second ∨ key first = key second ∧ id first ≤ id second

theorem rowsWithKey_congr {key : Row → String} {id : Row → Int} {rows : List Row}
    (same : SameElements keys other)
    : rowsWithKey key id keys rows = rowsWithKey key id other rows := by
  unfold rowsWithKey
  simp only [same _]

theorem length_rowsWithKey_iff {key : Row → String} {id : Row → Int} {rows : List Row}
    (unique : (rows.map key).Nodup)
    : (rowsWithKey key id keys rows).length = keys.length
      ↔ keys.Nodup ∧ ∀ value ∈ keys, ∃ row ∈ rows, key row = value := by
  unfold rowsWithKey
  rw [List.length_insertionSort]
  exact length_filter_wanted_iff unique

theorem resolveRoleIds_eq (nonempty : keys ≠ [])
    : Admin.resolveRoleIds keys
      = resolveCounted (fun db => rowsWithKey ManagedRole.key ManagedRole.id keys db.roles.rows)
          ManagedRole.id (.badRequest "one or more role_keys are invalid") keys.length :=
  if_neg (mt List.isEmpty_iff.mp nonempty)

theorem canonicalPermissionKey_of_valid {key : String}
    (valid : (permissionFromStr key).isSome = true)
    : canonicalPermissionKey key = .ok key := by
  obtain ⟨permission, found⟩ := Option.isSome_iff_exists.mp valid
  have isKey : permission.asStr = key := by
    unfold permissionFromStr at found
    simpa using List.find?_some found
  unfold canonicalPermissionKey
  rw [found]
  exact congrArg Except.ok isKey

/-- Valid permission keys are resolved as they stand. -/
theorem resolvePermissionIds_run_eq (nonempty : keys ≠ [])
    (valid : ∀ key ∈ keys, (permissionFromStr key).isSome = true)
    : (resolvePermissionIds keys).run faults index db
      = (resolveCounted (fun db => rowsWithKey Permission.key Permission.id keys db.permissions)
          Permission.id (.internal "one or more built-in permission records are missing")
          keys.length).run faults index db := by
  have canonical : keys.mapM canonicalPermissionKey = .ok keys := by
    clear nonempty
    induction keys with
    | nil => rfl
    | cons key rest ih =>
        obtain ⟨first, later⟩ := List.forall_mem_cons.mp valid
        simp [canonicalPermissionKey_of_valid first, ih later, pure, Except.pure, bind,
          Except.bind]
  unfold resolvePermissionIds
  rw [if_neg (mt List.isEmpty_iff.mp nonempty), canonical]
  rfl

/-- Resolutions that read the same rows, and find or miss the number of keys alike, run alike. -/
theorem resolveCounted_congr {read otherRead : RoleDatabase → List Row} {id : Row → Int}
    {refusal : ApiError} {count otherCount : Nat} (sameRead : read db = otherRead db)
    (sameCount : (read db).length = count ↔ (otherRead db).length = otherCount)
    : (resolveCounted read id refusal count).run faults index db
      = (resolveCounted otherRead id refusal otherCount).run faults index db := by
  unfold resolveCounted
  rw [run_bind, run_bind, run_mapError, run_mapError, query, query, run_statement, run_statement,
    sameRead]
  rw [sameRead] at sameCount
  cases faults index with
  | some fault => rfl
  | none =>
      change Ran.mk _ _ _ = Ran.mk _ _ _
      simp only [ne_eq, sameCount]

theorem resolveCounted_rejects {read : RoleDatabase → List Row} {id : Row → Int}
    {refusal : ApiError} {count : Nat} (missed : (read db).length ≠ count)
    {ids : List Int} {next : Nat} {after : RoleDatabase}
    : (resolveCounted read id refusal count).run faults index db ≠ ⟨.ok ids, next, after⟩ := by
  unfold resolveCounted
  intro resolved
  simp only [bind_eq_ok, mapError_eq_ok, query_eq_ok, ofExcept_eq_ok] at resolved
  obtain ⟨_, _, _, ⟨_, ⟨rfl, _⟩, _⟩, isOk, _⟩ := resolved
  rw [if_pos missed] at isOk
  cases isOk

theorem resolveCounted_succeeds {read : RoleDatabase → List Row} {id : Row → Int}
    {refusal : ApiError} {count : Nat} (counted : (read db).length = count)
    : (resolveCounted read id refusal count).Succeeds db fun ids after =>
        after = db ∧ ids = (read db).map id := by
  have reads
      : (query read : Session StatementError _ _ _).Succeeds db fun rows after =>
          after = db ∧ rows = read db :=
    succeeds_query ⟨rfl, rfl⟩
  apply reads.mapError.bind
  rintro rows inner ⟨rfl, rfl⟩
  exact succeeds_ofExcept (if_neg (not_not.mpr counted)) ⟨rfl, rfl⟩

end Resolution

------------------------------------------------------------
-- Lists that are resolved alike
------------------------------------------------------------

section Alike

variable {server : AdminServer} {keys other : List String} {faults : Nat → Option StatementError}

theorem SameElements.eq_nil_iff (same : SameElements keys other) : keys = [] ↔ other = [] := by
  simp only [List.eq_nil_iff_forall_not_mem, same _]

/-- Lists of stored role keys are resolved alike if both or neither repeat a key. -/
theorem resolveRoleIds_congr {db : RoleDatabase} {index : Nat} (unique : UniqueKeys db)
    (same : SameElements keys other)
    (stored : ∀ key ∈ keys, ∃ role ∈ db.roles.rows, role.key = key)
    (alike : keys.Nodup ↔ other.Nodup)
    : (Admin.resolveRoleIds keys).run faults index db
      = (Admin.resolveRoleIds other).run faults index db := by
  by_cases empty : keys = []
  · rw [empty, same.eq_nil_iff.mp empty]
  · rw [resolveRoleIds_eq empty, resolveRoleIds_eq (mt same.eq_nil_iff.mpr empty)]
    apply resolveCounted_congr (rowsWithKey_congr same)
    have storedOther : ∀ key ∈ other, ∃ role ∈ db.roles.rows, role.key = key :=
      fun key member => stored key ((same key).mpr member)
    rw [length_rowsWithKey_iff unique.roles, length_rowsWithKey_iff unique.roles,
      and_iff_left stored, and_iff_left storedOther]
    exact alike

/-- Lists of valid permission keys are resolved alike if both or neither repeat a key, or if one of
the keys is not stored.
-/
theorem resolvePermissionIds_congr {db : RoleDatabase} {index : Nat} (unique : UniqueKeys db)
    (same : SameElements keys other)
    (valid : ∀ key ∈ keys, (permissionFromStr key).isSome = true)
    (alike
      : (∃ key ∈ keys, ∀ permission ∈ db.permissions, permission.key ≠ key)
        ∨ (keys.Nodup ↔ other.Nodup))
    : (resolvePermissionIds keys).run faults index db
      = (resolvePermissionIds other).run faults index db := by
  by_cases empty : keys = []
  · rw [empty, same.eq_nil_iff.mp empty]
  · have validOther : ∀ key ∈ other, (permissionFromStr key).isSome = true :=
      fun key member => valid key ((same key).mpr member)
    rw [resolvePermissionIds_run_eq empty valid,
      resolvePermissionIds_run_eq (mt same.eq_nil_iff.mpr empty) validOther]
    apply resolveCounted_congr (rowsWithKey_congr same)
    rw [length_rowsWithKey_iff unique.permissions, length_rowsWithKey_iff unique.permissions]
    simp only [← same _]
    rcases alike with ⟨key, member, missing⟩ | alike
    · have unstored
          : ¬∀ key ∈ keys, ∃ permission ∈ db.permissions, permission.key = key := by
        intro stored
        obtain ⟨permission, isStored, isKey⟩ := stored key member
        exact missing permission isStored isKey
      exact iff_of_false (fun counted => unstored counted.2) fun counted => unstored counted.2
    · exact and_congr_left fun _ => alike

theorem onRoles_congr {Result : Type}
    {session otherSession : Session StatementError RoleDatabase ApiError Result} {index : Nat}
    (same
      : session.run faults index server.db.roleDb = otherSession.run faults index server.db.roleDb)
    : (onRoles session).run faults index server
      = (onRoles otherSession).run faults index server := by
  unfold onRoles
  rw [run_within, run_within, same]

theorem rolesAssignedAlike_of_nodup (unique : UniqueKeys server.db.roleDb)
    (same : SameElements keys other)
    (stored : ∀ key ∈ keys, ∃ role ∈ server.db.roleDb.roles.rows, role.key = key)
    (alike : keys.Nodup ↔ other.Nodup)
    : RolesAssignedAlike server keys other := by
  intro libraries salt faults
  have resolved
      : (onRoles (Admin.resolveRoleIds keys)).run faults 0 server
        = (onRoles (Admin.resolveRoleIds other)).run faults 0 server :=
    onRoles_congr (resolveRoleIds_congr unique same stored alike)
  constructor
  · intro payload
    apply AssignedAlike.of_eq
    have sameUser
        : newAdminUser libraries salt { payload with roleKeys := keys }
          = newAdminUser libraries salt { payload with roleKeys := other } :=
      rfl
    unfold createAdminUser
    rw [sameUser]
    apply run_ofExcept_bind_congr
    intro _
    apply run_bind_congr resolved
    intros
    dsimp only
  · intro userId payload
    apply AssignedAlike.of_eq
    have sameParams
        : UpdateAdminUserRequest.params libraries { payload with roleKeys := keys } salt
          = UpdateAdminUserRequest.params libraries { payload with roleKeys := other } salt :=
      rfl
    unfold Admin.updateAdminUser
    rw [sameParams]
    apply run_ofExcept_bind_congr
    intro _
    apply run_bind_congr resolved
    intros
    dsimp only

theorem permissionsAssignedAlike_of_nodup (unique : UniqueKeys server.db.roleDb)
    (same : SameElements keys other)
    (valid : ∀ key ∈ keys, (permissionFromStr key).isSome = true)
    (alike
      : (∃ key ∈ keys, ∀ permission ∈ server.db.roleDb.permissions, permission.key ≠ key)
        ∨ (keys.Nodup ↔ other.Nodup))
    : PermissionsAssignedAlike server keys other := by
  intro faults
  have resolved
      : (resolvePermissionIds keys).run faults 0 server.db.roleDb
        = (resolvePermissionIds other).run faults 0 server.db.roleDb :=
    resolvePermissionIds_congr unique same valid alike
  constructor
  · intro payload
    apply AssignedAlike.of_eq
    apply onRoles_congr
    have sameRole
        : CreateRoleRequest.newRole { payload with permissionKeys := keys }
          = CreateRoleRequest.newRole { payload with permissionKeys := other } :=
      rfl
    unfold createRole
    rw [sameRole]
    apply run_ofExcept_bind_congr
    intro _
    apply run_bind_congr resolved
    intros
    dsimp only
  · intro roleId payload
    apply AssignedAlike.of_eq
    have sameUpdate
        : UpdateRoleRequest.update { payload with permissionKeys := keys }
          = UpdateRoleRequest.update { payload with permissionKeys := other } :=
      rfl
    unfold Admin.updateRole
    rw [sameUpdate]
    apply run_ofExcept_bind_congr
    intro _
    apply run_bind_congr (onRoles_congr resolved)
    intros
    dsimp only

end Alike

------------------------------------------------------------
-- Lists that are not
------------------------------------------------------------

section Differing

variable {server : AdminServer} {keys other : List String} {faults : Nat → Option StatementError}

theorem rejected_of_ne_ok {Db Error Result : Type} {ran : Ran Db Error Result}
    (never : ∀ result next after, ran ≠ ⟨.ok result, next, after⟩)
    : ran.result.toOption.isSome = false := by
  rcases ran with ⟨error | result, next, after⟩
  · rfl
  · exact absurd rfl (never result next after)

theorem ne_nil_of_repeated (repeated : ¬keys.Nodup) : keys ≠ [] := by
  rintro rfl
  exact repeated List.nodup_nil

theorem resolveRoleIds_rejects {db : RoleDatabase} (unique : UniqueKeys db)
    (repeated : ¬keys.Nodup) {index next : Nat} {ids : List Int} {after : RoleDatabase}
    : (Admin.resolveRoleIds keys).run faults index db ≠ ⟨.ok ids, next, after⟩ := by
  rw [resolveRoleIds_eq (ne_nil_of_repeated repeated)]
  apply resolveCounted_rejects
  exact fun counted => repeated ((length_rowsWithKey_iff unique.roles).mp counted).1

theorem resolvePermissionIds_rejects {db : RoleDatabase} (unique : UniqueKeys db)
    (valid : ∀ key ∈ keys, (permissionFromStr key).isSome = true) (repeated : ¬keys.Nodup)
    {index next : Nat} {ids : List Int} {after : RoleDatabase}
    : (resolvePermissionIds keys).run faults index db ≠ ⟨.ok ids, next, after⟩ := by
  rw [resolvePermissionIds_run_eq (ne_nil_of_repeated repeated) valid]
  apply resolveCounted_rejects
  exact fun counted => repeated ((length_rowsWithKey_iff unique.permissions).mp counted).1

theorem createAdminUser_rejects (faults : Nat → Option StatementError)
    (unique : UniqueKeys server.db.roleDb) (repeated : ¬keys.Nodup)
    (libraries : AuthLibraries) (salt : String) (payload : CreateAdminUserRequest)
    : ((createAdminUser libraries salt { payload with roleKeys := keys }).run faults 0
        server).result.toOption.isSome = false := by
  apply rejected_of_ne_ok
  intro response next after accepted
  unfold createAdminUser at accepted
  obtain ⟨_, _, _, checked, accepted⟩ := bind_eq_ok.mp accepted
  obtain ⟨_, rfl, rfl⟩ := ofExcept_eq_ok.mp checked
  obtain ⟨ids, _, _, resolved, _⟩ := bind_eq_ok.mp accepted
  obtain ⟨_, resolved, _⟩ := within_eq_ok.mp resolved
  exact resolveRoleIds_rejects unique repeated resolved

theorem createRole_rejects (faults : Nat → Option StatementError)
    (unique : UniqueKeys server.db.roleDb)
    (valid : ∀ key ∈ keys, (permissionFromStr key).isSome = true) (repeated : ¬keys.Nodup)
    (payload : CreateRoleRequest)
    : ((onRoles (createRole { payload with permissionKeys := keys })).run faults 0
        server).result.toOption.isSome = false := by
  apply rejected_of_ne_ok
  intro response next after accepted
  obtain ⟨_, accepted, _⟩ := within_eq_ok.mp accepted
  unfold createRole at accepted
  obtain ⟨_, _, _, checked, accepted⟩ := bind_eq_ok.mp accepted
  obtain ⟨_, rfl, rfl⟩ := ofExcept_eq_ok.mp checked
  obtain ⟨ids, _, _, resolved, _⟩ := bind_eq_ok.mp accepted
  exact resolvePermissionIds_rejects unique valid repeated resolved

/-- A text without white space that is not in use. -/
theorem exists_unused_text (texts : List String)
    : ∃ count, String.ofList (List.replicate (count + 1) 'x') ∉ texts := by
  by_contra used
  simp only [not_exists, not_not] at used
  let text (count : Nat) : String := .ofList (List.replicate (count + 1) 'x')
  have distinct : ((List.range (texts.length + 1)).map text).Nodup := by
    apply List.Nodup.map _ List.nodup_range
    intro first second same
    have lengths := congrArg (fun text => text.toList.length) same
    simpa [text] using lengths
  have included : (List.range (texts.length + 1)).map text ⊆ texts := by
    intro value member
    obtain ⟨count, _, rfl⟩ := List.mem_map.mp member
    exact used count
  have bound := (List.subperm_of_subset distinct included).length_le
  rw [List.length_map, List.length_range] at bound
  omega

theorem trim_replicate_x (count : Nat)
    : trim (String.ofList (List.replicate count 'x'))
      = String.ofList (List.replicate count 'x') := by
  unfold trim
  rw [String.toList_ofList, trimChars_eq_self]
  intro char member
  rw [List.eq_of_mem_replicate member]
  decide

theorem accepted_of_succeeds {Db Error Result : Type}
    {session : Session StatementError Db Error Result}
    {db : Db} {post : Result → Db → Prop} (succeeds : session.Succeeds db post)
    : (session.run (fun _ => none) 0 db).result.toOption.isSome = true := by
  obtain ⟨result, next, after, ran, _⟩ := succeeds 0
  rw [ran]
  rfl

theorem onTables_succeeds {Result : Type} {session : AdminSession Result}
    {post : Result → AdminDatabase → Prop} (succeeds : session.Succeeds server.db post)
    : (onTables session).Succeeds server fun result after => post result after.db :=
  succeeds.mapError.within

/-- Stored role keys that are not repeated resolve to stored roles. -/
theorem resolveRoleIds_succeeds (unique : UniqueKeys server.db.roleDb) (once : keys.Nodup)
    (stored : ∀ key ∈ keys, ∃ role ∈ server.db.roleDb.roles.rows, role.key = key)
    : (onRoles (Admin.resolveRoleIds keys)).Succeeds server fun ids after =>
        after = server ∧ ∀ id ∈ ids, (server.db.roleDb.roles.find? id).isSome = true := by
  by_cases empty : keys = []
  · rw [empty]
    exact Succeeds.within (succeeds_pure ⟨rfl, fun _ member => absurd member List.not_mem_nil⟩)
  · rw [resolveRoleIds_eq empty]
    apply Succeeds.within
    apply (resolveCounted_succeeds ((length_rowsWithKey_iff unique.roles).mpr ⟨once, stored⟩)).mono
    rintro ids after ⟨rfl, rfl⟩
    refine ⟨rfl, fun id member => ?_⟩
    obtain ⟨role, selected, rfl⟩ := List.mem_map.mp member
    have isStored := List.mem_of_mem_filter ((List.mem_insertionSort _).mp selected)
    exact Option.isSome_of_eq_some (Table.find?_key isStored)

/-- Stored roles are assigned to a stored user. -/
theorem replaceRolesForAdminUserInTx_succeeds {db : AdminDatabase} {adminUserId : Int}
    {roleIds : List Int} (isStored : (db.adminUsers.find? adminUserId).isSome = true)
    (known : ∀ id ∈ roleIds, (db.roleDb.roles.find? id).isSome = true)
    : (AdminDatabase.replaceRolesForAdminUserInTx adminUserId roleIds).Succeeds db
        fun _ _ => True := by
  let invariant (state : AdminDatabase) : Prop :=
    state.adminUsers = db.adminUsers ∧ state.roleDb = db.roleDb
  have inserts (roleId : Int) (member : roleId ∈ roleIds) (state : AdminDatabase)
      (holds : invariant state)
      : ∃ after,
          AdminDatabase.insertAdminUserRole adminUserId roleId state = .ok after
          ∧ invariant after := by
    have userFound : (state.adminUsers.find? adminUserId).isNone = false := by
      rw [holds.1, Option.isNone_eq_false_iff, isStored]
    have roleFound : (state.roleDb.roles.find? roleId).isNone = false := by
      rw [holds.2, Option.isNone_eq_false_iff, known roleId member]
    unfold AdminDatabase.insertAdminUserRole
    rw [userFound, roleFound]
    split
    · exact ⟨state, rfl, holds⟩
    · exact ⟨_, rfl, holds⟩
  exact (succeeds_replace invariant ⟨rfl, rfl⟩ inserts).mono fun _ _ _ => trivial

theorem createAdminUserInTx_succeeds {db : AdminDatabase} {new : NewAdminUser}
    (accepted : db.refusal (new.row db.adminUsers.nextId) = none)
    : (AdminDatabase.createAdminUserInTx new).Succeeds db fun user after =>
        user = new.row db.adminUsers.nextId
        ∧ after = { db with adminUsers := db.adminUsers.insert new.row } := by
  refine succeeds_statement ?_ ⟨rfl, rfl⟩
  rw [accepted]

theorem storeAdminUser_succeeds {new : NewAdminUser} {roleIds : List Int}
    (accepted : server.db.refusal (new.row server.db.adminUsers.nextId) = none)
    (known : ∀ id ∈ roleIds, (server.db.roleDb.roles.find? id).isSome = true)
    : (storeAdminUser new none roleIds).Succeeds server fun _ _ => True := by
  apply Succeeds.transactionWith
  apply (onTables_succeeds (createAdminUserInTx_succeeds accepted)).bind
  rintro user inner ⟨rfl, isDb⟩
  have isStored
      : (inner.db.adminUsers.find? (new.row server.db.adminUsers.nextId).id).isSome = true := by
    rw [isDb]
    exact Option.isSome_of_eq_some
      (SerialTable.find?_insert_nextId server.db.adminUsers new.row fun _ => rfl)
  have knownInner : ∀ id ∈ roleIds, (inner.db.roleDb.roles.find? id).isSome = true := by
    rw [isDb]
    exact known
  apply (onTables_succeeds (replaceRolesForAdminUserInTx_succeeds isStored knownInner)).bind
  intro _ _ _
  exact succeeds_pure trivial

theorem buildManagedAdminUserResponse_succeeds (user : AdminUser)
    : (buildManagedAdminUserResponse user).Succeeds server fun _ _ => True := by
  have reads {Result : Type} (read : AdminDatabase → Result) (server : AdminServer)
      : (onTables (.query read)).Succeeds server fun _ _ => True := by
    have succeeds : (query read : AdminSession Result).Succeeds server.db fun _ _ => True :=
      succeeds_query trivial
    exact onTables_succeeds succeeds
  apply (reads _ server).bind
  intro roles inner _
  apply (reads _ inner).bind
  intro permissions _ _
  exact succeeds_pure trivial

/-- Libraries whose hashes are never blank. -/
def plainLibraries : AuthLibraries where
  hashToken := fun text => text
  usesToken := fun _ => true
  hashPassword := fun _ _ => "x"
  verifyPasswordHash := fun _ _ => true
  lower := fun text => text

/-- A user is created from a valid payload that the constraints allow, with stored roles. -/
theorem createAdminUser_succeeds {libraries : AuthLibraries} {salt : String}
    {payload : CreateAdminUserRequest} (unique : UniqueKeys server.db.roleDb)
    (valid
      : validateAdminUserPayload payload.email payload.displayName (some payload.password)
        = .ok ())
    (accepted
      : server.db.refusal
          ((newAdminUser libraries salt payload).row server.db.adminUsers.nextId)
        = none)
    (active : payload.isActive = none) (once : payload.roleKeys.Nodup)
    (stored : ∀ key ∈ payload.roleKeys, ∃ role ∈ server.db.roleDb.roles.rows, role.key = key)
    : (createAdminUser libraries salt payload).Succeeds server fun _ _ => True := by
  have checked
      : (.ofExcept
            (validateAdminUserPayload payload.email payload.displayName (some payload.password))
          : AdminRequest Unit).Succeeds server fun _ after => after = server :=
    succeeds_ofExcept valid rfl
  unfold createAdminUser
  apply checked.bind
  intro _ _ isServer
  rw [isServer]
  apply (resolveRoleIds_succeeds unique once stored).bind
  rintro ids _ ⟨isServer, known⟩
  rw [isServer, active]
  apply (storeAdminUser_succeeds accepted known).bind
  intro user inner _
  exact buildManagedAdminUserResponse_succeeds user

/-- A user can be created with any stored roles. -/
theorem createAdminUser_accepts (unique : UniqueKeys server.db.roleDb) (once : keys.Nodup)
    (stored : ∀ key ∈ keys, ∃ role ∈ server.db.roleDb.roles.rows, role.key = key)
    : ∃ payload : CreateAdminUserRequest,
        ((createAdminUser plainLibraries "" { payload with roleKeys := keys }).run (fun _ => none)
          0 server).result.toOption.isSome = true := by
  obtain ⟨count, unused⟩ := exists_unused_text (server.db.adminUsers.rows.map (·.email))
  let email : String := .ofList (List.replicate (count + 1) 'x')
  have isEmail : trim email = email := trim_replicate_x (count + 1)
  have emailChars : email.toList = 'x' :: List.replicate count 'x' := by
    rw [String.toList_ofList, List.replicate_succ]
  have notBlank : trim email ≠ "" := by
    intro blank
    have chars := congrArg String.toList (isEmail.symm.trans blank)
    rw [emailChars] at chars
    cases chars
  let payload : CreateAdminUserRequest :=
    { email, displayName := "x", password := "x", isActive := none, roleKeys := keys }
  have valid : validateAdminUserPayload email "x" (some "x") = .ok () := by
    unfold validateAdminUserPayload
    rw [if_neg notBlank]
    decide +kernel
  have accepted
      : server.db.refusal
          ((newAdminUser plainLibraries "" payload).row server.db.adminUsers.nextId)
        = none := by
    have isRow
        : (newAdminUser plainLibraries "" payload).row server.db.adminUsers.nextId
          = ⟨server.db.adminUsers.nextId, email, trim "x", "x", true⟩ :=
      congrArg (AdminUser.mk _ · _ _ _) isEmail
    have notTaken
        : server.db.adminUsers.rows.any (fun other =>
            other.id != server.db.adminUsers.nextId && other.email = email)
          = false := by
      rw [List.any_eq_false]
      intro other isStored
      have differs : other.email ≠ email :=
        fun same => unused (List.mem_map.mpr ⟨other, isStored, same⟩)
      simp [differs]
    have isName : (trim "x").toList.all (· = ' ') = false := by decide +kernel
    have isHash : "x".toList.all (· = ' ') = false := by decide +kernel
    rw [isRow, AdminDatabase.refusal]
    simp only [isName, isHash, emailChars, notTaken, List.all_cons, Bool.false_and,
      show decide ('x' = ' ') = false from rfl, Bool.false_eq_true, if_false]
  have succeeds : (createAdminUser plainLibraries "" payload).Succeeds server fun _ _ => True :=
    createAdminUser_succeeds unique valid accepted rfl once stored
  exact ⟨payload, accepted_of_succeeds succeeds⟩

/-- Valid, stored permission keys that are not repeated resolve to stored permissions. -/
theorem resolvePermissionIds_succeeds {db : RoleDatabase} (unique : UniqueKeys db)
    (valid : ∀ key ∈ keys, (permissionFromStr key).isSome = true) (once : keys.Nodup)
    (stored : ∀ key ∈ keys, ∃ permission ∈ db.permissions, permission.key = key)
    : (resolvePermissionIds keys).Succeeds db fun ids after =>
        after = db ∧ ∀ id ∈ ids, ∃ permission ∈ db.permissions, permission.id = id := by
  by_cases empty : keys = []
  · rw [empty]
    exact succeeds_pure ⟨rfl, fun _ member => absurd member List.not_mem_nil⟩
  · intro index
    rw [resolvePermissionIds_run_eq empty valid]
    refine (Succeeds.mono (resolveCounted_succeeds
      ((length_rowsWithKey_iff unique.permissions).mpr ⟨once, stored⟩)) ?_) index
    rintro ids after ⟨rfl, rfl⟩
    refine ⟨rfl, fun id member => ?_⟩
    obtain ⟨permission, selected, rfl⟩ := List.mem_map.mp member
    exact ⟨permission, List.mem_of_mem_filter ((List.mem_insertionSort _).mp selected), rfl⟩

/-- Stored permissions are granted to a stored role. -/
theorem replacePermissionsForRole_succeeds {db : RoleDatabase} {roleId : Int}
    {permissionIds : List Int} (isStored : (db.roles.find? roleId).isSome = true)
    (known : ∀ id ∈ permissionIds, ∃ permission ∈ db.permissions, permission.id = id)
    : (replacePermissionsForRole roleId permissionIds).Succeeds db fun _ _ => True := by
  let invariant (state : RoleDatabase) : Prop :=
    state.roles = db.roles ∧ state.permissions = db.permissions
  have inserts (permissionId : Int) (member : permissionId ∈ permissionIds) (state : RoleDatabase)
      (holds : invariant state)
      : ∃ after, insertRolePermission roleId permissionId state = .ok after ∧ invariant after := by
    obtain ⟨permission, stored, isId⟩ := known permissionId member
    have found : (state.roles.find? roleId).isNone = false := by
      rw [holds.1, Option.isNone_eq_false_iff, isStored]
    have permitted : state.permissions.all (·.id ≠ permissionId) = false := by
      rw [holds.2, List.all_eq_false]
      exact ⟨permission, stored, by simp [isId]⟩
    unfold insertRolePermission
    rw [found, permitted]
    split
    · exact ⟨state, rfl, holds⟩
    · exact ⟨_, rfl, holds⟩
  apply Succeeds.transaction
  exact (succeeds_replace invariant ⟨rfl, rfl⟩ inserts).mono fun _ _ _ => trivial

theorem insertRole_succeeds {db : RoleDatabase} {new : NewRole} (accepted : new.refusal db = none)
    : (insertRole new).Succeeds db fun role after =>
        role = new.row db.roles.nextId ∧ after = { db with roles := db.roles.insert new.row } := by
  refine succeeds_statement ?_ ⟨rfl, rfl⟩
  rw [accepted]

/-- A role is created from a valid payload that the constraints allow, with valid and stored
permissions.
-/
theorem createRole_succeeds {db : RoleDatabase} {payload : CreateRoleRequest}
    (unique : UniqueKeys db) (isOk : validateRolePayload payload.key payload.name = .ok ())
    (accepted : payload.newRole.refusal db = none)
    (valid : ∀ key ∈ payload.permissionKeys, (permissionFromStr key).isSome = true)
    (once : payload.permissionKeys.Nodup)
    (stored
      : ∀ key ∈ payload.permissionKeys, ∃ permission ∈ db.permissions, permission.key = key)
    : (createRole payload).Succeeds db fun _ _ => True := by
  have checked
      : (.ofExcept (validateRolePayload payload.key payload.name)
          : Session StatementError RoleDatabase ApiError Unit).Succeeds db
            fun _ after => after = db :=
    succeeds_ofExcept isOk rfl
  unfold createRole
  apply checked.bind
  intro _ _ isDb
  rw [isDb]
  apply (resolvePermissionIds_succeeds unique valid once stored).bind
  rintro ids _ ⟨isDb, known⟩
  rw [isDb]
  apply (insertRole_succeeds accepted).mapError.bind
  rintro role inserted ⟨isRole, isInserted⟩
  have isStored : (inserted.roles.find? role.id).isSome = true := by
    rw [isRole, isInserted]
    exact Option.isSome_of_eq_some
      (SerialTable.find?_insert_nextId db.roles payload.newRole.row fun _ => rfl)
  have knownInserted
      : ∀ id ∈ ids, ∃ permission ∈ inserted.permissions, permission.id = id := by
    rw [isInserted]
    exact known
  apply (replacePermissionsForRole_succeeds isStored knownInserted).mapError.bind
  intro _ inner _
  have read : (listPermissionKeysForRole role.id).Succeeds inner fun _ _ => True :=
    succeeds_query trivial
  apply read.mapError.bind
  intro _ _ _
  exact succeeds_pure trivial

/-- A role can be created with any valid and stored permissions. -/
theorem createRole_accepts (unique : UniqueKeys server.db.roleDb)
    (valid : ∀ key ∈ keys, (permissionFromStr key).isSome = true) (once : keys.Nodup)
    (stored : ∀ key ∈ keys, ∃ permission ∈ server.db.roleDb.permissions, permission.key = key)
    : ∃ payload : CreateRoleRequest,
        ((onRoles (createRole { payload with permissionKeys := keys })).run (fun _ => none) 0
          server).result.toOption.isSome = true := by
  obtain ⟨count, unused⟩ := exists_unused_text (server.db.roleDb.roles.rows.map (·.key))
  let roleKey : String := .ofList (List.replicate (count + 1) 'x')
  have isKey : trim roleKey = roleKey := trim_replicate_x (count + 1)
  have keyChars : roleKey.toList = List.replicate (count + 1) 'x' := String.toList_ofList
  have notBlank : trim roleKey ≠ "" := by
    intro blank
    have chars := congrArg String.toList (isKey.symm.trans blank)
    rw [keyChars, List.replicate_succ] at chars
    cases chars
  let payload : CreateRoleRequest :=
    { key := roleKey, name := "x", description := none, permissionKeys := keys }
  have isOk : validateRolePayload roleKey "x" = .ok () := by
    unfold validateRolePayload
    rw [if_neg notBlank]
    decide +kernel
  have accepted : payload.newRole.refusal server.db.roleDb = none := by
    have formatted : roleKey.toList.all isRoleKeyChar = true := by
      rw [keyChars, List.all_replicate, if_neg (Nat.succ_ne_zero count)]
      decide +kernel
    have isNonempty : roleKey.toList ≠ [] := by
      rw [keyChars]
      exact List.cons_ne_nil _ _
    have isName : (trim "x").toList.all (· = ' ') = false := by decide +kernel
    have notTaken : server.db.roleDb.roles.rows.any (·.key = roleKey) = false := by
      rw [List.any_eq_false]
      intro other isStored same
      exact unused (List.mem_map.mpr ⟨other, isStored, of_decide_eq_true same⟩)
    unfold NewRole.refusal
    simp only [CreateRoleRequest.newRole, payload, isKey, formatted, isNonempty, isName, notTaken]
    decide
  have succeeds : (createRole payload).Succeeds server.db.roleDb fun _ _ => True :=
    createRole_succeeds unique isOk accepted valid once stored
  have whole : (onRoles (createRole payload)).Succeeds server fun _ _ => True :=
    Succeeds.within succeeds
  exact ⟨payload, accepted_of_succeeds whole⟩

end Differing

------------------------------------------------------------
-- What decides
------------------------------------------------------------

section Decided

variable {server : AdminServer} {keys other : List String}

theorem AssignedAlike.symm {Response : Type} {ran other : Ran AdminServer ApiError Response}
    (same : AssignedAlike ran other)
    : AssignedAlike other ran :=
  ⟨same.accepted.symm, same.adminUserRoles.symm, same.rolePermissions.symm⟩

theorem RolesAssignedAlike.symm (alike : RolesAssignedAlike server keys other)
    : RolesAssignedAlike server other keys := by
  intro libraries salt faults
  obtain ⟨creates, updates⟩ := alike libraries salt faults
  exact ⟨fun payload => (creates payload).symm, fun userId payload => (updates userId payload).symm⟩

theorem PermissionsAssignedAlike.symm (alike : PermissionsAssignedAlike server keys other)
    : PermissionsAssignedAlike server other keys := by
  intro faults
  obtain ⟨creates, updates⟩ := alike faults
  exact ⟨fun payload => (creates payload).symm, fun roleId payload => (updates roleId payload).symm⟩

/-- A list that repeats no key is accepted, and then so is the other list. -/
theorem RolesAssignedAlike.nodup (alike : RolesAssignedAlike server keys other)
    (unique : UniqueKeys server.db.roleDb)
    (stored : ∀ key ∈ keys, ∃ role ∈ server.db.roleDb.roles.rows, role.key = key)
    (once : keys.Nodup)
    : other.Nodup := by
  obtain ⟨payload, accepted⟩ := createAdminUser_accepts unique once stored
  by_contra repeated
  have rejected := createAdminUser_rejects (fun _ => none) unique repeated plainLibraries ""
    payload
  have same := ((alike plainLibraries "" fun _ => none).1 payload).accepted
  rw [accepted, rejected] at same
  cases same

theorem PermissionsAssignedAlike.nodup (alike : PermissionsAssignedAlike server keys other)
    (unique : UniqueKeys server.db.roleDb)
    (valid : ∀ key ∈ keys ++ other, (permissionFromStr key).isSome = true)
    (stored : ∀ key ∈ keys, ∃ permission ∈ server.db.roleDb.permissions, permission.key = key)
    (once : keys.Nodup)
    : other.Nodup := by
  obtain ⟨payload, accepted⟩ := createRole_accepts unique
    (fun key member => valid key (List.mem_append_left other member)) once stored
  by_contra repeated
  have rejected := createRole_rejects (fun _ => none) unique
    (fun key member => valid key (List.mem_append_right keys member)) repeated payload
  have same := ((alike fun _ => none).1 payload).accepted
  rw [accepted, rejected] at same
  cases same

theorem rolesAssignedAlike_iff (unique : UniqueKeys server.db.roleDb)
    (same : SameElements keys other)
    (stored : ∀ key ∈ keys, ∃ role ∈ server.db.roleDb.roles.rows, role.key = key)
    : RolesAssignedAlike server keys other ↔ (keys.Nodup ↔ other.Nodup) := by
  constructor
  · intro alike
    constructor
    · exact alike.nodup unique stored
    · exact alike.symm.nodup unique fun key member => stored key ((same key).mpr member)
  · exact rolesAssignedAlike_of_nodup unique same stored

theorem permissionsAssignedAlike_iff (unique : UniqueKeys server.db.roleDb)
    (same : SameElements keys other)
    (valid : ∀ key ∈ keys, (permissionFromStr key).isSome = true)
    : PermissionsAssignedAlike server keys other
      ↔ (∃ key ∈ keys, ∀ permission ∈ server.db.roleDb.permissions, permission.key ≠ key)
        ∨ (keys.Nodup ↔ other.Nodup) := by
  constructor
  · intro alike
    by_cases stored
        : ∀ key ∈ keys, ∃ permission ∈ server.db.roleDb.permissions, permission.key = key
    · have storedOther
          : ∀ key ∈ other, ∃ permission ∈ server.db.roleDb.permissions, permission.key = key :=
        fun key member => stored key ((same key).mpr member)
      have validOther : ∀ key ∈ other, (permissionFromStr key).isSome = true :=
        fun key member => valid key ((same key).mpr member)
      refine .inr ⟨?_, ?_⟩
      · exact alike.nodup unique (List.forall_mem_append.mpr ⟨valid, validOther⟩) stored
      · exact alike.symm.nodup unique (List.forall_mem_append.mpr ⟨validOther, valid⟩) storedOther
    · left
      simpa only [not_forall, not_exists, not_and, exists_prop] using stored
  · exact permissionsAssignedAlike_of_nodup unique same valid

/-- Two lists with the same stored role keys are assigned alike exactly if both or neither repeat a
key, and so are two lists with the same valid permission keys, unless one of these is not stored.
-/
theorem assignments_byKeySet_iff (server : AdminServer) (unique : UniqueKeys server.db.roleDb)
    (keys other : List String) (same : SameElements keys other)
    : ((∀ key ∈ keys, ∃ role ∈ server.db.roleDb.roles.rows, role.key = key)
        → (RolesAssignedAlike server keys other ↔ (keys.Nodup ↔ other.Nodup)))
      ∧ ((∀ key ∈ keys, (permissionFromStr key).isSome = true)
          → (PermissionsAssignedAlike server keys other
            ↔ (∃ key ∈ keys, ∀ permission ∈ server.db.roleDb.permissions, permission.key ≠ key)
              ∨ (keys.Nodup ↔ other.Nodup))) :=
  ⟨rolesAssignedAlike_iff unique same, permissionsAssignedAlike_iff unique same⟩

/-- An installation with two roles and two permissions. -/
def smallAdminServer : AdminServer where
  db :=
    { adminUsers := .empty
      adminUserRoles := []
      roleDb :=
        { roles :=
            (SerialTable.empty.insert
              (NewRole.row ⟨"viewer", "Viewer", none⟩) fun _ => rfl).insert
              (NewRole.row ⟨"operator", "Operator", none⟩) fun _ => rfl
          permissions := [⟨1, "sites.read"⟩, ⟨2, "sites.create"⟩]
          rolePermissions := [] }
      tokens := .empty }
  cache := .new
  now := 0

theorem smallAdminServer_unique : UniqueKeys smallAdminServer.db.roleDb where
  roles := by decide +kernel
  permissions := by decide +kernel

/-- Two roles in either order. -/
theorem assignments_byKeySet_swapped
    : RolesAssignedAlike smallAdminServer ["viewer", "operator"] ["operator", "viewer"]
      ∧ PermissionsAssignedAlike smallAdminServer ["sites.read", "sites.create"]
          ["sites.create", "sites.read"] := by
  constructor
  · refine ((assignments_byKeySet_iff smallAdminServer smallAdminServer_unique
      ["viewer", "operator"] ["operator", "viewer"] ?_).1 ?_).mpr ?_
    · intro key
      simp [or_comm]
    · decide +kernel
    · decide +kernel
  · refine ((assignments_byKeySet_iff smallAdminServer smallAdminServer_unique
      ["sites.read", "sites.create"] ["sites.create", "sites.read"] ?_).2 ?_).mpr (.inr ?_)
    · intro key
      simp [or_comm]
    · decide +kernel
    · decide +kernel

/-- The role key `viewer` is accepted once, but not twice. -/
theorem repeatedRoleKey_isRejected
    : ¬∀ (server : AdminServer) (keys other : List String),
        UniqueKeys server.db.roleDb
        → SameElements keys other
        → (∀ key ∈ keys, ∃ role ∈ server.db.roleDb.roles.rows, role.key = key)
        → RolesAssignedAlike server keys other := by
  intro alike
  have same : SameElements ["viewer"] ["viewer", "viewer"] := by
    intro key
    simp
  have stored
      : ∀ key ∈ ["viewer"], ∃ role ∈ smallAdminServer.db.roleDb.roles.rows, role.key = key := by
    decide +kernel
  have decided := (rolesAssignedAlike_iff smallAdminServer_unique same stored).mp
    (alike smallAdminServer ["viewer"] ["viewer", "viewer"] smallAdminServer_unique same stored)
  exact absurd decided (by decide)

end Decided

end AlonSentinel.System
