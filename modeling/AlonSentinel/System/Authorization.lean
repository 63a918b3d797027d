import AlonSentinel.System.Mediation

/-! Who changes the admin users and API clients. Every statement that does is one of a request of
an admin user whose permissions, as the database gave them, include the one that the handler
requires.
-/

namespace AlonSentinel.System

open Api
open Auth
open Domain
open KeyedTable
open TransitionSystem

variable {libraries : AuthLibraries} {server after : AuthServer} {request stepped : Request}
  {entropy : Entropy} {state before next : AuthState} {past : List AuthState} {action : AuthAction}
  {context : BearerTokenContext} {required : PermissionKey}

------------------------------------------------------------
-- Requests that require a permission
------------------------------------------------------------

/-- The permission that a handler requires which manages admin users or API clients. -/
def requiredPermission : Endpoint → Option PermissionKey
  | .createAdminUser _ | .updateAdminUser _ _ | .deleteAdminUser _ => some .usersWrite
  | .createApiClient _ | .updateApiClient _ _ | .deleteApiClient _ | .rotateApiClientSecret _ =>
      some .apiClientsWrite
  | _ => none

/-- An admin user has a permission. -/
def permits (context : BearerTokenContext) (required : PermissionKey) : Bool :=
  context.kind = .adminUser && required ∈ context.permissions

/-- A request that deals with admin tokens only, and is not in its handler without a permission. -/
def isGuarded (required : PermissionKey) (request : Request) : Bool :=
  match request.phase with
  | .lookupCache lookup => lookup = .adminBearer
  | .readTokenKind => false
  | .readContext _ kind => kind = .adminUser
  | .insertCache context => context.kind = .adminUser
  | .handle _ => request.context.any (permits · required)
  | .responded _ | .aborted => true

theorem isGuarded_of_isOver (finished : request.phase.isOver = true)
    : isGuarded required request = true := by
  unfold isGuarded
  split <;> simp_all [Phase.isOver]

theorem requirePermission_ok {permissions : PermissionSet} {passed : Unit}
    (ok : requirePermission permissions required = .ok passed)
    : required ∈ permissions := by
  unfold requirePermission at ok
  split at ok
  · assumption
  · cases ok

theorem Phase.ofChecked_eq_handle {next current : HandlerPhase} {checked : Except ApiError Unit}
    (starts : Phase.ofChecked next checked = .handle current)
    : checked = .ok () := by
  cases checked with
  | ok _ => rfl
  | error _ => cases starts

/-- A handler starts only with the permission that it requires. -/
theorem startHandler_requires {endpoint : Endpoint} {current : HandlerPhase} {rawToken : String}
    (requires : requiredPermission endpoint = some required)
    (starts : startHandler endpoint rawToken context = .handle current)
    : required ∈ context.permissions := by
  have checks (rest : Unit → Except ApiError Unit)
      (ok : (requirePermission context.permissions required >>= rest) = .ok ())
      : required ∈ context.permissions := by
    obtain ⟨_, permitted, _⟩ := Fallible.bind_eq_ok.mp ok
    exact requirePermission_ok permitted
  cases endpoint with
  | createAdminUser payload | updateAdminUser userId payload | deleteAdminUser userId
  | createApiClient payload | updateApiClient clientId payload =>
      cases requires
      exact checks _ (Phase.ofChecked_eq_handle starts)
  | deleteApiClient clientId | rotateApiClientSecret clientId =>
      cases requires
      exact requirePermission_ok (Phase.ofChecked_eq_handle starts)
  | issueToken _ | issueAdminToken _ | revokeToken _ | logoutAdmin | other _ => cases requires

theorem isGuarded_authenticated
    (requires : requiredPermission request.endpoint = some required)
    (isAdmin : context.kind = .adminUser)
    : isGuarded required (request.authenticated context) = true := by
  rcases request.authenticated_cases context with same | ⟨phase, failed, same⟩
  · rw [same]
    cases starts : startHandler request.endpoint request.rawToken context with
    | handle current =>
        simp [isGuarded, permits, isAdmin, startHandler_requires requires starts]
    | responded _ | aborted => rfl
    | _ =>
        have start := startHandler_isStart request.endpoint request.rawToken context
        rw [starts] at start
        cases start
  · rw [same]
    exact isGuarded_of_isOver (Phase.isOver_of_hasFailed failed)

theorem startRequestOf_endpoint (endpoint : Endpoint) (headers : AuthHeaders)
    : (startRequestOf endpoint headers).endpoint = endpoint := by
  unfold startRequestOf
  split
  · rfl
  · rfl
  · rfl
  · split <;> rfl

theorem isGuarded_startRequestOf {endpoint : Endpoint} (headers : AuthHeaders)
    (requires : requiredPermission endpoint = some required)
    : isGuarded required (startRequestOf endpoint headers) = true := by
  have isAdmin : endpoint.extractor = some .authenticatedAdminRequest := by
    cases endpoint <;> cases requires <;> rfl
  unfold startRequestOf
  split
  · cases requires
  · cases requires
  · rfl
  · rename_i extractor _ _ isExtractor
    obtain rfl := Option.some.inj (isExtractor.symm.trans isAdmin)
    unfold Extractor.credential
    cases extractAdminSessionCookie headers with
    | ok token => rfl
    | error _ => cases extractBearerToken headers <;> rfl

/-- A request for admin users finds only their contexts in the cache. -/
theorem kind_of_cached_adminBearer {cache : AuthTokenCache} {now : Timestamp} {rawToken : String}
    (found : (TokenLookup.adminBearer.cached libraries cache now rawToken).1 = some context)
    : context.kind = .adminUser := by
  obtain ⟨admin, _, rfl⟩ := Option.map_eq_some_iff.mp found
  rfl

/-- No step of a request leads into the handler without the permission. -/
theorem isGuarded_step
    (taken : requestStep libraries server request entropy = some (after, stepped))
    (requires : requiredPermission request.endpoint = some required)
    (guarded : isGuarded required request = true)
    : isGuarded required stepped = true := by
  unfold requestStep at taken
  unfold isGuarded at guarded
  split at taken
  · rename_i lookup isPhase
    rw [isPhase] at guarded
    obtain rfl := of_decide_eq_true guarded
    cases taken
    cases found
      : (TokenLookup.adminBearer.cached libraries server.cache server.now request.rawToken).1 with
    | none => rfl
    | some context => exact isGuarded_authenticated requires (kind_of_cached_adminBearer found)
  · rename_i isPhase
    rw [isPhase] at guarded
    cases guarded
  · rename_i lookup kind isPhase
    rw [isPhase] at guarded
    obtain rfl := of_decide_eq_true guarded
    split at taken
    · cases taken
      exact decide_eq_true (authenticateTokenOfKind_ok ‹_›).1
    · cases taken
      rfl
  · rename_i context isPhase
    rw [isPhase] at guarded
    cases taken
    exact isGuarded_authenticated requires (of_decide_eq_true guarded)
  · rename_i current isPhase
    rw [isPhase] at guarded
    obtain ⟨⟨_, next⟩, handled, same⟩ := Option.map_eq_some_iff.mp taken
    cases same
    rcases handlerStepped_goesOn (handlerStep_cases handled) with finished | ⟨_, rfl⟩
    · exact isGuarded_of_isOver finished
    · exact guarded
  · cases taken
  · cases taken

------------------------------------------------------------
-- Requests on their own
------------------------------------------------------------

/-- What holds of a request when it arrives, and is kept when it ends and by its own steps, holds of
every request. Witness: induction along the run.
-/
theorem requests_invariant (property : Request → Prop)
    (arrives : ∀ endpoint headers, property (startRequestOf endpoint headers))
    (ends
      : ∀ (request : Request) (phase : Phase),
          phase.isOver = true
          → property request
          → property { request with phase })
    (steps
      : ∀ server request entropy after stepped,
          property request
          → requestStep libraries server request entropy = some (after, stepped)
          → property stepped)
    (reachable : ReachableAuth libraries state)
    : ∀ request ∈ state.requests, property request := by
  refine reachable.invariant (fun state => ∀ request ∈ state.requests, property request)
    (fun state initial request member => ?_)
    fun state action next _ holds taken request member => ?_
  · rw [initial.requests] at member
    exact (List.not_mem_nil member).elim
  · cases action with
    | act id entropy =>
        obtain ⟨before, found, taken⟩ := Option.bind_eq_some_iff.mp taken
        obtain ⟨⟨server, stepped⟩, stepsTo, same⟩ := Option.bind_eq_some_iff.mp taken
        cases same
        rcases List.mem_or_eq_of_mem_set member with kept | rfl
        · exact holds request kept
        · exact steps _ _ _ _ _ (holds before (List.mem_of_getElem? found)) stepsTo
    | start endpoint headers =>
        simp only [stepAuth] at taken
        split at taken
        · cases taken
          rcases List.mem_append.mp member with kept | new
          · exact holds request kept
          · rw [List.mem_singleton.mp new]
            exact arrives endpoint headers
        · cases taken
    | fail id message =>
        obtain ⟨before, found, taken⟩ := Option.bind_eq_some_iff.mp taken
        split at taken
        · cases taken
          rcases List.mem_or_eq_of_mem_set member with kept | rfl
          · exact holds request kept
          · exact ends before _ rfl (holds before (List.mem_of_getElem? found))
        · cases taken
    | abort id =>
        obtain ⟨before, found, taken⟩ := Option.bind_eq_some_iff.mp taken
        cases taken
        rcases List.mem_or_eq_of_mem_set member with kept | rfl
        · exact holds request kept
        · obtain ⟨phase, finished, same⟩ := abort_cases before
          exact same ▸ ends before phase finished (holds before (List.mem_of_getElem? found))
    | advance elapsed | changeRoles roles adminUserRoles rolePermissions keys =>
        cases taken
        exact holds request member
    | restart =>
        cases taken
        obtain ⟨before, isBefore, rfl⟩ := List.mem_map.mp member
        obtain ⟨phase, finished, same⟩ := abort_cases before
        exact same ▸ ends before phase finished (holds before isBefore)

/-- A request never gets to another endpoint. -/
theorem requestStepped_endpoint
    (steps : RequestStepped libraries server request entropy after stepped)
    : stepped.endpoint = request.endpoint := by
  have authenticated (context : BearerTokenContext)
      : (request.authenticated context).endpoint = request.endpoint := by
    rcases request.authenticated_cases context with same | ⟨_, _, same⟩ <;> rw [same]
  cases steps with
  | @lookedUp lookup phase =>
      cases (lookup.cached libraries server.cache server.now request.rawToken).1 with
      | none => cases lookup <;> rfl
      | some context => exact authenticated context
  | inserted pending => exact authenticated _
  | foundKind | rejected | read | handled => rfl

/-- A handler that requires a permission is entered only by an admin user who has it. -/
theorem guarded_of_reachable (reachable : ReachableAuth libraries state)
    : ∀ request ∈ state.requests, ∀ required,
        requiredPermission request.endpoint = some required
        → isGuarded required request = true := by
  refine requests_invariant
    (fun request => ∀ required, requiredPermission request.endpoint = some required
      → isGuarded required request = true)
    (fun endpoint headers _ requires =>
      isGuarded_startRequestOf headers (startRequestOf_endpoint endpoint headers ▸ requires))
    (fun _ _ finished _ _ _ => isGuarded_of_isOver finished)
    (fun _ _ _ _ _ guarded taken required requires => ?_) reachable
  rw [requestStepped_endpoint (requestStep_cases taken)] at requires
  exact isGuarded_step taken requires (guarded required requires)

------------------------------------------------------------
-- Who changes the principals
------------------------------------------------------------

/-- The tables of admin users and API clients are left alone, with the roles of the former and the
scopes of the latter.
-/
structure SamePrincipals (before after : AuthDatabase) : Prop where
  adminUsers : after.adminUsers = before.adminUsers
  adminUserRoles : after.adminUserRoles = before.adminUserRoles
  apiClients : after.apiClients = before.apiClients
  apiClientScopes : after.apiClientScopes = before.apiClientScopes

/-- The statements that change these tables. -/
def managesPrincipals : HandlerPhase → Bool
  | .createUser _ | .updateUser _ | .replaceRoles _ _ | .deleteUser | .createClient
  | .replaceScopes _ | .updateClient | .rotateSecret | .deleteClient => true
  | _ => false

/-- Such statements are executed by handlers that require a permission. -/
theorem requires_of_managesPrincipals {endpoint : Endpoint} {current : HandlerPhase}
    (runs : endpoint.runs current = true) (manages : managesPrincipals current = true)
    : ∃ required, requiredPermission endpoint = some required := by
  cases endpoint with
  | createAdminUser _ | updateAdminUser _ _ | deleteAdminUser _ | createApiClient _
  | updateApiClient _ _ | deleteApiClient _ | rotateApiClientSecret _ => exact ⟨_, rfl⟩
  | issueToken _ | issueAdminToken _ | revokeToken _ | logoutAdmin | other _ =>
      cases current <;> cases manages <;> cases runs

/-- A handler leaves the tables alone, or executes one of these statements. -/
theorem handlerStepped_samePrincipals {current : HandlerPhase} {next : Phase}
    (steps : HandlerStepped libraries server request current after next)
    : SamePrincipals server.db after.db ∨ managesPrincipals current = true := by
  have revoked (kind : PrincipalKind) (now : Timestamp) (id : Int) (reason : Option String)
      : SamePrincipals server.db (revokeToken server.db kind now id reason) :=
    ⟨rfl, rfl, rfl, rfl⟩
  cases steps with
  | inserted stored =>
      obtain ⟨_, rfl, _⟩ := createToken_ok stored
      exact .inl ⟨rfl, rfl, rfl, rfl⟩
  | revokedToken | loggedOut => exact .inl (revoked _ _ _ _)
  | createdUser | updatedUser | replacedRoles | deletedUser | createdClient | replacedScopes
  | updatedClient | rotatedSecret | deletedClient => exact .inr rfl
  | _ => exact .inl ⟨rfl, rfl, rfl, rfl⟩

/-- What an action does to the database, unless it is the next step of a request. -/
theorem stepAuth_database (taken : stepAuth libraries before action = some next)
    : (∃ id entropy, action = .act id entropy)
      ∨ next.server.db = before.server.db
      ∨ ∃ roles adminUserRoles rolePermissions keys,
          action = .changeRoles roles adminUserRoles rolePermissions keys
          ∧ next.server.db
            = { before.server.db with roles, adminUserRoles, rolePermissions } := by
  cases action with
  | act id entropy => exact .inl ⟨id, entropy, rfl⟩
  | start endpoint headers =>
      simp only [stepAuth] at taken
      split at taken <;> cases taken
      exact .inr (.inl rfl)
  | fail id message =>
      obtain ⟨_, _, taken⟩ := Option.bind_eq_some_iff.mp taken
      split at taken <;> cases taken
      exact .inr (.inl rfl)
  | abort id =>
      obtain ⟨_, _, taken⟩ := Option.bind_eq_some_iff.mp taken
      cases taken
      exact .inr (.inl rfl)
  | advance elapsed | restart =>
      cases taken
      exact .inr (.inl rfl)
  | changeRoles roles adminUserRoles rolePermissions keys =>
      cases taken
      exact .inr (.inr ⟨_, _, _, _, rfl, rfl⟩)

/-- The next step of a request changes the database only from its handler. -/
theorem handles_of_changed {id : Nat}
    (taken : stepAuth libraries before (.act id entropy) = some next)
    (changed : next.server.db ≠ before.server.db)
    : ∃ request current after,
        before.requests[id]? = some request
        ∧ request.phase = .handle current
        ∧ HandlerStepped libraries before.server request current next.server after := by
  obtain ⟨request, found, acted⟩ := Option.bind_eq_some_iff.mp taken
  obtain ⟨⟨server, stepped⟩, stepsTo, same⟩ := Option.bind_eq_some_iff.mp acted
  cases same
  cases requestStep_cases stepsTo with
  | lookedUp | foundKind | rejected | read | inserted => exact absurd rfl changed
  | handled phase handles => exact ⟨request, _, _, found, phase, handlerStep_cases handles⟩

/-- An admin user at work in a handler: the request carries a context with the permission that the
handler requires, and the database gave that context for the token of the request.
-/
structure Authorized (libraries : AuthLibraries) (history : List AuthState) (id : Nat)
    (request : Request) (admin : AdminAccessTokenContext) (required : PermissionKey)
    : Prop where
  requires : requiredPermission request.endpoint = some required
  context : request.context = some (.adminUser admin)
  permitted : required ∈ admin.permissions
  mediated : Mediated libraries history id request.rawToken (.adminUser admin)

theorem authorized_of_handling (collisionFree : libraries.CollisionFree) {id : Nat}
    {current : HandlerPhase}
    (run : History (stepAuth libraries) AuthState.IsInitial (state :: past))
    (found : state.requests[id]? = some request) (handling : request.phase = .handle current)
    (requires : requiredPermission request.endpoint = some required)
    : ∃ admin, Authorized libraries (state :: past) id request admin required := by
  have guarded :=
    guarded_of_reachable run.reachable request (List.mem_of_getElem? found) required requires
  rw [isGuarded, handling] at guarded
  obtain ⟨context, isContext, permitted⟩ := (Option.any_eq_true _ _).mp guarded
  obtain ⟨isAdmin, permitted⟩ := Bool.and_eq_true_iff.mp permitted
  obtain ⟨asked, answered, older, passes, asks⟩ :=
    asks_of_authenticated run ⟨request, found, rfl, isContext⟩
  have mediated := mediated_of_asks collisionFree run passes asks
  cases context with
  | adminUser admin =>
      exact ⟨admin, requires, isContext, of_decide_eq_true permitted, mediated⟩
  | apiClient client => cases of_decide_eq_true isAdmin

/-- Nobody changes the admin users, the API clients, or what either may do, but an admin user whom
the database granted the permission for it. The handlers of roles are not part of the system.
-/
theorem principals_changedByPermission (collisionFree : libraries.CollisionFree)
    (run : History (stepAuth libraries) AuthState.IsInitial (before :: past))
    (taken : stepAuth libraries before action = some next)
    (changed : ¬SamePrincipals before.server.db next.server.db)
    : (∃ roles adminUserRoles rolePermissions keys,
          action = .changeRoles roles adminUserRoles rolePermissions keys)
      ∨ ∃ id entropy request admin required,
          action = .act id entropy
          ∧ before.requests[id]? = some request
          ∧ Authorized libraries (before :: past) id request admin required := by
  have differs : next.server.db ≠ before.server.db :=
    fun same => changed (same ▸ ⟨rfl, rfl, rfl, rfl⟩)
  rcases stepAuth_database taken with
    ⟨id, entropy, rfl⟩ | same | ⟨roles, adminUserRoles, rolePermissions, keys, isChange, _⟩
  · obtain ⟨request, current, after, found, phase, steps⟩ := handles_of_changed taken differs
    have manages := (handlerStepped_samePrincipals steps).resolve_left changed
    have own := inOwnPhase_of_reachable run.reachable request (List.mem_of_getElem? found)
    rw [Request.inOwnPhase, phase] at own
    obtain ⟨required, requires⟩ := requires_of_managesPrincipals own manages
    obtain ⟨admin, authorized⟩ := authorized_of_handling collisionFree run found phase requires
    exact .inr ⟨id, entropy, request, admin, required, rfl, found, authorized⟩
  · exact absurd same differs
  · exact .inl ⟨roles, adminUserRoles, rolePermissions, keys, isChange⟩

/-- An admin user logs in and deactivates a client, up to the statement that does so. -/
def adminDeactivatesClient : List AuthAction :=
  .start (.issueAdminToken ⟨"admin@shop.test", "secret"⟩) noHeaders :: actTimes 0 2 3
    ++ .start (.updateApiClient 1 ⟨"Shop", none, false⟩) (bearerHeaders (smallToken 2))
    :: actTimes 1 2 3

def staffedShop : AuthState :=
  smallAuthState (smallAdmins ["admin@shop.test"]) smallClients

def clientDeactivation : Bool :=
  (run (stepAuth smallAuthLibraries) staffedShop adminDeactivatesClient).any fun before =>
    (stepAuth smallAuthLibraries before (.act 1 (smallEntropy 2))).any fun next =>
      before.server.db.apiClients.rows.all (·.isActive)
        && next.server.db.apiClients.rows.any (!·.isActive)

theorem clientDeactivation_runs : clientDeactivation = true := by decide +kernel

theorem principals_changedByPermission_clientDeactivation
    : ∃ before past next request admin required,
        run (stepAuth smallAuthLibraries) staffedShop adminDeactivatesClient = some before
        ∧ stepAuth smallAuthLibraries before (.act 1 (smallEntropy 2)) = some next
        ∧ ¬SamePrincipals before.server.db next.server.db
        ∧ before.requests[1]? = some request
        ∧ Authorized smallAuthLibraries (before :: past) 1 request admin required := by
  obtain ⟨before, ran, scenario⟩ := (Option.any_eq_true _ _).mp clientDeactivation_runs
  obtain ⟨next, taken, scenario⟩ := (Option.any_eq_true _ _).mp scenario
  obtain ⟨allActive, someInactive⟩ := Bool.and_eq_true_iff.mp scenario
  have changed : ¬SamePrincipals before.server.db next.server.db := by
    intro same
    obtain ⟨client, member, inactive⟩ := List.any_eq_true.mp someInactive
    rw [same.apiClients] at member
    rw [List.all_eq_true.mp allActive client member] at inactive
    cases inactive
  obtain ⟨past, history⟩ := (Reachable.of_run (smallAuthState_initial _ _) ran).history
  rcases principals_changedByPermission smallAuthLibraries_collisionFree history taken changed with
    ⟨_, _, _, _, isChange⟩ | ⟨_, _, request, admin, required, isAct, found, authorized⟩
  · cases isChange
  · cases isAct
    exact ⟨before, past, next, request, admin, required, ran, taken, changed, found, authorized⟩

end AlonSentinel.System
