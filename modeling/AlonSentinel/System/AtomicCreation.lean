import AlonSentinel.Api.AdminHandlers
import AlonSentinel.System.AuthSystem

/-! Creating an API client with its scopes, or a role with its permissions. The parent row is
committed before the transaction of its children begins, and so it stays behind when anything fails
after it.
-/

namespace AlonSentinel.System

open Api
open Api.Admin
open Auth
open DatabaseSession
open DatabaseSession.Session
open Domain
open KeyedTable
open UnicodeText

------------------------------------------------------------
-- API clients
------------------------------------------------------------

section Clients

variable {db after : AuthDatabase} {apiClientId : Int} {scopes : List String}
  {faults : Nat → Option StatementError}

/-- The rows of clients and scopes are as before. -/
structure SameClients (db after : AuthDatabase) : Prop where
  clients : after.apiClients.rows = db.apiClients.rows
  scopes : after.apiClientScopes = db.apiClientScopes

/-- The inserts succeed exactly if no scope occurs twice or is there already, by induction over the
scopes.
-/
theorem foldlM_insertApiClientScope (isStored : (db.apiClients.find? apiClientId).isSome = true)
    : (∃ after,
        scopes.foldlM (fun db scope => insertApiClientScope apiClientId scope db) db = .ok after)
      ↔ scopes.Nodup ∧ ∀ scope ∈ scopes, ⟨apiClientId, scope⟩ ∉ db.apiClientScopes := by
  have known : (db.apiClients.find? apiClientId).isNone = false := by
    rw [Option.isNone_eq_false_iff, isStored]
  induction scopes generalizing db with
  | nil => simp [pure, Except.pure]
  | cons scope rest ih =>
      by_cases present : ⟨apiClientId, scope⟩ ∈ db.apiClientScopes
      · have refused
            : insertApiClientScope apiClientId scope db
              = .error (.violates (.uniqueViolation "uq_api_client_scopes_client_scope")) := by
          simp only [insertApiClientScope, known, Bool.false_eq_true, if_false, present, if_true]
        simp only [List.foldlM_cons, Fallible.bind_eq_ok, refused]
        refine iff_of_false (by simp) ?_
        rintro ⟨_, absent⟩
        exact absent scope List.mem_cons_self present
      · have inserted
            : insertApiClientScope apiClientId scope db
              = .ok { db with
                  apiClientScopes := db.apiClientScopes ++ [⟨apiClientId, scope⟩] } := by
          simp only [insertApiClientScope, known, Bool.false_eq_true, if_false, present]
        have later := @ih
          { db with apiClientScopes := db.apiClientScopes ++ [⟨apiClientId, scope⟩] } isStored known
        simp only [List.foldlM_cons, Fallible.bind_eq_ok, inserted, Except.ok.injEq,
          exists_eq_left', later]
        simp only [List.nodup_cons, List.mem_cons, List.mem_append, forall_eq_or_imp,
          ApiClientScope.mk.injEq, true_and, List.not_mem_nil, or_false]
        constructor
        · rintro ⟨distinct, absent⟩
          refine ⟨⟨fun member => absent scope member (.inr rfl), distinct⟩, present, ?_⟩
          exact fun other member stored => absent other member (.inl stored)
        · rintro ⟨⟨fresh, distinct⟩, _, absent⟩
          refine ⟨distinct, fun other member stored => ?_⟩
          rcases stored with stored | rfl
          · exact absent other member stored
          · exact fresh member

/-- A stored client's scopes are replaced exactly if none occurs twice and no statement fails. -/
theorem replaceApiClientScopesStepwise_succeeds {index : Nat}
    (isStored : (db.apiClients.find? apiClientId).isSome = true)
    : (∃ result next after,
        (replaceApiClientScopesStepwise apiClientId scopes).run faults index db
        = ⟨.ok result, next, after⟩)
      ↔ scopes.Nodup ∧ NoFaults faults index (scopes.length + 3) := by
  have inserts := @foldlM_insertApiClientScope (deleteApiClientScopes apiClientId db) apiClientId
    scopes isStored
  have cleared (scope : String)
      : ⟨apiClientId, scope⟩ ∉ (deleteApiClientScopes apiClientId db).apiClientScopes := by
    simp [deleteApiClientScopes]
  unfold replaceApiClientScopesStepwise
  simp only [transaction_executeAll_eq_ok]
  constructor
  · rintro ⟨_, _, after, faultless, folded, _⟩
    exact ⟨(inserts.mp ⟨after, folded⟩).1, faultless⟩
  · rintro ⟨distinct, faultless⟩
    obtain ⟨after, folded⟩ := inserts.mpr ⟨distinct, fun scope _ => cleared scope⟩
    exact ⟨(), _, after, faultless, folded, rfl⟩

/-- The client of a payload is inserted: its payload is valid, its id is new, and the statement does
not fail.
-/
structure ClientInserted (libraries : AuthLibraries) (entropy : Entropy) (createdBy : Int)
    (payload : CreateApiClientRequest) (faults : Nat → Option StatementError) (db : AuthDatabase)
    : Prop where
  valid : ∃ clientType, validateCreateApiClient payload = .ok clientType
  executed : faults 0 = none
  isNew
    : ∀ client ∈ db.apiClients.rows,
        client.clientId
        ≠ "ac_" ++ String.ofList ((generateRawToken entropy.tokenBytes).toList.take 16)

/-- The scopes are stored: none occurs twice, and no statement of their transaction fails. -/
structure ScopesStored (payload : CreateApiClientRequest) (faults : Nat → Option StatementError)
    : Prop where
  distinct : payload.scopes.Nodup
  executed : NoFaults faults 1 (payload.scopes.length + 3)

variable {libraries : AuthLibraries} {entropy : Entropy} {createdBy : Int}
  {payload : CreateApiClientRequest}

theorem insertApiClient_eq_ok {new : NewApiClient} {client : ApiClient} {index next : Nat}
    : (insertApiClient new).run faults index db = ⟨.ok client, next, after⟩
      ↔ faults index = none
        ∧ (∀ stored ∈ db.apiClients.rows, stored.clientId ≠ new.clientId)
        ∧ new.row db.apiClients.nextId = client
        ∧ { db with apiClients := db.apiClients.insert new.row } = after
        ∧ index + 1 = next := by
  unfold insertApiClient Domain.createApiClient
  rw [statement_eq_ok]
  by_cases taken : db.apiClients.rows.any (·.clientId = new.clientId) = true
  · rw [if_pos taken]
    simp only [List.any_eq_true, decide_eq_true_eq] at taken
    obtain ⟨stored, member, same⟩ := taken
    simp only [Except.mapError, reduceCtorEq, false_and, and_false, false_iff]
    rintro ⟨_, isNew, _⟩
    exact isNew stored member same
  · rw [if_neg taken]
    simp only [List.any_eq_true, decide_eq_true_eq, not_exists, not_and] at taken
    simp only [Except.mapError, Except.ok.injEq, Prod.mk.injEq, and_assoc]
    exact and_congr_right fun _ => (and_iff_right taken).symm

/-- What is left behind when the scopes of an inserted client are not stored. -/
theorem replaceApiClientScopes_failsWith_iff {new : NewApiClient} {index : Nat}
    : FailsWith
        ((replaceApiClientScopesStepwise db.apiClients.nextId scopes).run faults index
          { db with apiClients := db.apiClients.insert new.row })
        (SameClients db)
      ↔ scopes.Nodup ∧ NoFaults faults index (scopes.length + 3) := by
  have isStored
      : ((db.apiClients.insert new.row).find? db.apiClients.nextId).isSome = true :=
    Option.isSome_of_eq_some (SerialTable.find?_insert_nextId db.apiClients new.row fun _ => rfl)
  have changed : ¬SameClients db { db with apiClients := db.apiClients.insert new.row } :=
    fun same => SerialTable.rows_insert_ne _ _ (fun _ => rfl) same.clients
  have succeeds := @replaceApiClientScopesStepwise_succeeds
    { db with apiClients := db.apiClients.insert new.row } _ scopes faults index isStored
  rw [← succeeds]
  apply failsWith_iff_succeeds
  exact (allOrNothing_transaction _).failsWith changed

/-- A client is created as a whole or not at all exactly if its scopes are stored once it is
inserted.
-/
theorem createApiClient_allOrNothing_iff
    : FailsWith ((Admin.createApiClient libraries entropy createdBy payload).run faults 0 db)
        (SameClients db)
      ↔ (ClientInserted libraries entropy createdBy payload faults db
          → ScopesStored payload faults) := by
  have unchanged : SameClients db db := ⟨rfl, rfl⟩
  have inserting (new : NewApiClient)
      : ((insertApiClient new).mapError internalError).AllOrNothing :=
    (allOrNothing_statement _).mapError
  unfold Admin.createApiClient
  rw [failsWith_ofExcept_bind unchanged]
  simp only [(inserting _).failsWith_bind unchanged, mapError_eq_ok, insertApiClient_eq_ok]
  constructor
  · rintro fails ⟨⟨clientType, valid⟩, executed, isNew⟩
    have behind := fails clientType valid _ _ _ ⟨executed, isNew, rfl, rfl, rfl⟩
    rw [failsWith_bind_pure, failsWith_mapError] at behind
    obtain ⟨distinct, faultless⟩ := replaceApiClientScopes_failsWith_iff.mp behind
    exact ⟨distinct, faultless⟩
  · rintro stores clientType valid _ _ _ ⟨executed, isNew, rfl, rfl, rfl⟩
    obtain ⟨distinct, faultless⟩ := stores ⟨⟨clientType, valid⟩, executed, isNew⟩
    rw [failsWith_bind_pure, failsWith_mapError]
    exact replaceApiClientScopes_failsWith_iff.mpr ⟨distinct, faultless⟩

end Clients

------------------------------------------------------------
-- Roles
------------------------------------------------------------

section Roles

variable {db after : RoleDatabase} {payload : CreateRoleRequest}
  {faults : Nat → Option StatementError} {permissionIds : List Int} {index next : Nat}

/-- The rows of roles and their permissions are as before. -/
structure SameRoles (db after : RoleDatabase) : Prop where
  roles : after.roles.rows = db.roles.rows
  rolePermissions : after.rolePermissions = db.rolePermissions

/-- The permissions of a payload are all known, and there is one record for each of its keys. -/
structure PermissionsResolved (payload : CreateRoleRequest) (faults : Nat → Option StatementError)
    (db : RoleDatabase)
    : Prop where
  executed : payload.permissionKeys ≠ [] → faults 0 = none
  known
    : ∃ canonicalKeys,
        payload.permissionKeys.mapM canonicalPermissionKey = .ok canonicalKeys
        ∧ (db.permissions.filter (·.key ∈ canonicalKeys)).length = canonicalKeys.length

/-- The number of the statement that inserts the role. -/
def roleInsertIndex (payload : CreateRoleRequest) : Nat :=
  if payload.permissionKeys = [] then 0 else 1

/-- What permission keys resolve to: as many records of the table. -/
theorem permissionsResolved_of_ok
    (resolved
      : (resolvePermissionIds payload.permissionKeys).run faults 0 db
        = ⟨.ok permissionIds, next, after⟩)
    : PermissionsResolved payload faults db
      ∧ permissionIds.length = payload.permissionKeys.length
      ∧ (∀ permissionId ∈ permissionIds,
          ∃ permission ∈ db.permissions, permission.id = permissionId)
      ∧ roleInsertIndex payload = next
      ∧ db = after := by
  unfold resolvePermissionIds at resolved
  unfold roleInsertIndex
  split at resolved
  · next isEmpty =>
      obtain ⟨rfl, rfl, rfl⟩ := pure_eq_ok.mp resolved
      have isNil := List.isEmpty_iff.mp isEmpty
      rw [if_pos isNil, isNil]
      exact ⟨⟨absurd isNil, [], by rw [isNil]; rfl, by simp⟩, rfl, by simp, rfl, rfl⟩
  · next isEmpty =>
      rw [if_neg (mt List.isEmpty_iff.mpr isEmpty)]
      simp only [listPermissionsByKeys, bind_eq_ok, ofExcept_eq_ok, mapError_eq_ok, query_eq_ok]
        at resolved
      obtain ⟨canonicalKeys, _, _, ⟨isCanonical, rfl, rfl⟩, rows, _, _,
        ⟨unfaulted, ⟨rfl, rfl⟩, rfl⟩, isIds, rfl, rfl⟩ := resolved
      rw [List.length_insertionSort] at isIds
      split at isIds
      · cases isIds
      · next sameCount =>
          cases isIds
          have count := not_not.mp sameCount
          refine ⟨⟨fun _ => unfaulted, canonicalKeys, isCanonical, count⟩, ?_, ?_, rfl, rfl⟩
          · rw [List.length_map, List.length_insertionSort, count]
            exact Fallible.length_of_mapM isCanonical
          · intro permissionId member
            obtain ⟨permission, sorted, same⟩ := List.mem_map.mp member
            have selected := (List.mem_insertionSort _).mp sorted
            exact ⟨permission, List.mem_of_mem_filter selected, same⟩

theorem PermissionsResolved.ok (resolved : PermissionsResolved payload faults db)
    : ∃ permissionIds,
        (resolvePermissionIds payload.permissionKeys).run faults 0 db
        = ⟨.ok permissionIds, roleInsertIndex payload, db⟩ := by
  obtain ⟨executed, canonicalKeys, isCanonical, count⟩ := resolved
  unfold resolvePermissionIds roleInsertIndex
  by_cases isNil : payload.permissionKeys = []
  · rw [if_pos (List.isEmpty_iff.mpr isNil), if_pos isNil]
    exact ⟨[], rfl⟩
  · rw [if_neg (mt List.isEmpty_iff.mp isNil), if_neg isNil]
    simp only [listPermissionsByKeys, bind_eq_ok, ofExcept_eq_ok, mapError_eq_ok, query_eq_ok]
    refine ⟨_, canonicalKeys, _, _, ⟨isCanonical, rfl, rfl⟩, _, _, _,
      ⟨executed isNil, ⟨rfl, rfl⟩, rfl⟩, if_neg ?_, rfl, rfl⟩
    rwa [List.length_insertionSort, not_not]

theorem readOnly_resolvePermissionIds (permissionKeys : List String)
    : (resolvePermissionIds permissionKeys).ReadOnly := by
  unfold resolvePermissionIds
  split
  · exact readOnly_pure []
  · apply (readOnly_ofExcept _).bind
    intro canonicalKeys
    apply (readOnly_query _).mapError.bind
    exact fun rows => readOnly_ofExcept _

theorem insertRole_eq_ok {new : NewRole} {role : ManagedRole}
    : (insertRole new).run faults index db = ⟨.ok role, next, after⟩
      ↔ faults index = none
        ∧ new.refusal db = none
        ∧ new.row db.roles.nextId = role
        ∧ { db with roles := db.roles.insert new.row } = after
        ∧ index + 1 = next := by
  unfold insertRole
  rw [statement_eq_ok]
  cases new.refusal db with
  | some error => simp
  | none => simp only [Except.ok.injEq, Prod.mk.injEq, true_and, and_assoc]

/-- Known permissions are all granted to a stored role, and the roles stay as they are. -/
theorem foldlM_insertRolePermission {roleId : Int}
    (isStored : (db.roles.find? roleId).isSome = true)
    (known
      : ∀ permissionId ∈ permissionIds, ∃ permission ∈ db.permissions, permission.id = permissionId)
    : ∃ after,
        permissionIds.foldlM (fun db id => insertRolePermission roleId id db) db = .ok after
        ∧ after.roles = db.roles := by
  have progress (state : RoleDatabase)
      (same : state.roles = db.roles ∧ state.permissions = db.permissions)
      (permissionId : Int) (member : permissionId ∈ permissionIds)
      : ∃ after,
          insertRolePermission roleId permissionId state = .ok after
          ∧ after.roles = db.roles ∧ after.permissions = db.permissions := by
    obtain ⟨permission, stored, isId⟩ := known permissionId member
    have found : (state.roles.find? roleId).isNone = false := by
      rw [same.1, Option.isNone_eq_false_iff, isStored]
    have permitted : state.permissions.all (·.id ≠ permissionId) = false := by
      rw [same.2, List.all_eq_false]
      exact ⟨permission, stored, by simp [isId]⟩
    unfold insertRolePermission
    rw [found, permitted]
    split
    · exact ⟨state, rfl, same⟩
    · exact ⟨_, rfl, same⟩
  obtain ⟨after, folded, same, _⟩ := Fallible.foldlM_ok progress ⟨rfl, rfl⟩
  exact ⟨after, folded, same⟩

/-- What is left behind when a role is inserted and its permissions are not stored or not read. -/
theorem replacePermissionsForRole_failsWith_iff (new : NewRole)
    (known
      : ∀ permissionId ∈ permissionIds, ∃ permission ∈ db.permissions, permission.id = permissionId)
    : FailsWith
        ((do
          (replacePermissionsForRole db.roles.nextId permissionIds).mapError internalError
          buildManagedRoleResponse (new.row db.roles.nextId)).run faults index
            { db with roles := db.roles.insert new.row })
        (SameRoles db)
      ↔ NoFaults faults index (permissionIds.length + 4) := by
  have isStored : ((db.roles.insert new.row).find? db.roles.nextId).isSome = true :=
    Option.isSome_of_eq_some (SerialTable.find?_insert_nextId db.roles new.row fun _ => rfl)
  have changed {after : RoleDatabase} (same : after.roles = db.roles.insert new.row)
      : ¬SameRoles db after := by
    rintro ⟨unchanged, _⟩
    rw [same] at unchanged
    exact SerialTable.rows_insert_ne _ _ (fun _ => rfl) unchanged
  obtain ⟨stored, folded, sameRoles⟩ := @foldlM_insertRolePermission
    (deleteRolePermissions db.roles.nextId { db with roles := db.roles.insert new.row })
    permissionIds _ isStored known
  have replaced {result : Unit} {mid : Nat} {inner : RoleDatabase}
      : ((replacePermissionsForRole db.roles.nextId permissionIds).mapError internalError).run
          faults index { db with roles := db.roles.insert new.row } = ⟨.ok result, mid, inner⟩
        ↔ NoFaults faults index (permissionIds.length + 3) ∧ stored = inner
          ∧ index + permissionIds.length + 3 = mid := by
    unfold replacePermissionsForRole
    rw [mapError_eq_ok, transaction_executeAll_eq_ok, folded, Except.ok.injEq]
  have response {role : ManagedRole} {mid : Nat}
      : FailsWith ((buildManagedRoleResponse role).run faults mid stored) (SameRoles db)
        ↔ faults mid = none := by
    unfold buildManagedRoleResponse listPermissionKeysForRole
    rw [failsWith_bind_pure, failsWith_mapError, failsWith_query_iff (changed sameRoles)]
  rw [noFaults_succ_last, failsWith_bind, failsWith_mapError]
  simp only [replaced]
  constructor
  · rintro ⟨replacing, responding⟩
    obtain ⟨_, _, _, ran⟩ := (failsWith_iff_succeeds
      ((allOrNothing_transaction _).failsWith (changed rfl))).mp replacing
    obtain ⟨executed, _⟩ := replaced.mp (mapError_eq_ok.mpr ran)
    exact ⟨executed, response.mp (responding () _ _ ⟨executed, rfl, rfl⟩)⟩
  · rintro ⟨executed, answered⟩
    constructor
    · have ran := mapError_eq_ok.mp (@replaced () _ _ |>.mpr ⟨executed, rfl, rfl⟩)
      intro error failed
      simp [ran] at failed
    · rintro _ _ _ ⟨_, rfl, rfl⟩
      exact response.mpr answered

/-- The role of a payload is inserted: the payload is valid, its permissions are resolved, no
constraint keeps the role out, and the statement does not fail.
-/
structure RoleInserted (payload : CreateRoleRequest) (faults : Nat → Option StatementError)
    (db : RoleDatabase)
    : Prop where
  valid : validateRolePayload payload.key payload.name = .ok ()
  resolved : PermissionsResolved payload faults db
  executed : faults (roleInsertIndex payload) = none
  accepted : payload.newRole.refusal db = none

/-- Every statement behind the insert of the role is executed: the transaction of its permissions,
and the read for the response.
-/
def PermissionsStored (payload : CreateRoleRequest) (faults : Nat → Option StatementError) : Prop :=
  NoFaults faults (roleInsertIndex payload + 1) (payload.permissionKeys.length + 4)

/-- A role is created as a whole or not at all exactly if its permissions are stored and read once
it is inserted.
-/
theorem createRole_allOrNothing_iff
    : FailsWith ((createRole payload).run faults 0 db) (SameRoles db)
      ↔ (RoleInserted payload faults db → PermissionsStored payload faults) := by
  have unchanged : SameRoles db db := ⟨rfl, rfl⟩
  have resolving := (readOnly_resolvePermissionIds payload.permissionKeys).allOrNothing
  have inserting (new : NewRole) : ((insertRole new).mapError internalError).AllOrNothing :=
    (allOrNothing_statement _).mapError
  unfold createRole PermissionsStored
  rw [failsWith_ofExcept_bind unchanged]
  simp only [resolving.failsWith_bind unchanged]
  constructor
  · rintro fails ⟨valid, resolved, executed, accepted⟩
    obtain ⟨permissionIds, isOk⟩ := resolved.ok
    obtain ⟨_, count, known, _⟩ := permissionsResolved_of_ok isOk
    have behind := fails () valid _ _ _ isOk
    rw [(inserting _).failsWith_bind unchanged] at behind
    have ran := insertRole_eq_ok.mpr ⟨executed, accepted, rfl, rfl, rfl⟩
    have storing := behind _ _ _ (mapError_eq_ok.mpr ran)
    rw [← count]
    exact (replacePermissionsForRole_failsWith_iff payload.newRole known).mp storing
  · intro stores _ valid permissionIds _ _ isOk
    obtain ⟨resolved, count, known, rfl, rfl⟩ := permissionsResolved_of_ok isOk
    rw [(inserting _).failsWith_bind unchanged]
    intro role _ _ inserted
    obtain ⟨executed, accepted, rfl, rfl, rfl⟩ := insertRole_eq_ok.mp (mapError_eq_ok.mp inserted)
    apply (replacePermissionsForRole_failsWith_iff payload.newRole known).mpr
    rw [count]
    exact stores ⟨valid, resolved, executed, accepted⟩

end Roles

------------------------------------------------------------
-- Both
------------------------------------------------------------

/-- Whatever statements fail, a request that creates an API client or a role and reports an error
leaves the tables as they were, exactly if all that follows the insert of the parent row succeeds.
-/
theorem creation_allOrNothing_iff (libraries : AuthLibraries) (entropy : Entropy)
    (createdBy : Int) (client : CreateApiClientRequest) (role : CreateRoleRequest)
    (authDb : AuthDatabase) (roleDb : RoleDatabase) (faults : Nat → Option StatementError)
    : (FailsWith ((Admin.createApiClient libraries entropy createdBy client).run faults 0 authDb)
          (SameClients authDb)
        ↔ (ClientInserted libraries entropy createdBy client faults authDb
            → ScopesStored client faults))
      ∧ (FailsWith ((createRole role).run faults 0 roleDb) (SameRoles roleDb)
          ↔ (RoleInserted role faults roleDb → PermissionsStored role faults)) :=
  ⟨createApiClient_allOrNothing_iff, createRole_allOrNothing_iff⟩

/-- A client that is to have one scope twice. -/
def doubledScope : CreateApiClientRequest where
  name := "Shop"
  description := none
  clientType := "internal_service"
  scopes := ["sites:read", "sites:read"]

/-- The tables of an installation without clients. -/
def noClients : AuthDatabase := (smallAuthState .empty .empty).server.db

/-- No statement fails but the insert of the second scope, and the client stays behind. -/
theorem createApiClient_leaves_client_behind
    : ¬∀ error,
        ((Admin.createApiClient smallAuthLibraries (smallEntropy 1) 1 doubledScope).run
          (fun _ => none) 0 noClients).result = .error error
        → SameClients noClients
            ((Admin.createApiClient smallAuthLibraries (smallEntropy 1) 1 doubledScope).run
              (fun _ => none) 0 noClients).db := by
  intro atomic
  have stored := createApiClient_allOrNothing_iff.mp atomic
    ⟨⟨.internalService, by decide +kernel⟩, rfl, fun _ member => absurd member List.not_mem_nil⟩
  exact absurd stored.distinct (by decide)

end AlonSentinel.System
