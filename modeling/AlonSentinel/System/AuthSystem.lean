import AlonSentinel.Api.AuthSteps
import AlonSentinel.Foundation.TransitionSystem

/-! The API process with its token cache and any number of requests in progress, over the tables
that authentication rests on. Steps of different requests interleave in any order; a statement
may fail, a request may be dropped, and the process may be restarted. One clock stands for that of
the database, of the process and of its cache.
-/

namespace AlonSentinel.System

open Api
open Auth
open Domain
open KeyedTable
open TransitionSystem

------------------------------------------------------------
-- The system
------------------------------------------------------------

/-- The requests are numbered in the order in which they start. The server has one time: what the
database calls `NOW()`, the process `Utc::now()` and the cache `Instant::now()`.
-/
structure AuthState where
  server : AuthServer
  requests : List Request

inductive AuthAction where
  | start (endpoint : Endpoint) (headers : AuthHeaders)
  /-- The next step of a request. -/
  | act (id : Nat) (entropy : Entropy)
  /-- The next statement of a request fails. -/
  | fail (id : Nat) (message : String)
  /-- The connection of a request is closed. -/
  | abort (id : Nat)
  | advance (elapsed : Nat)
  /-- The handlers of roles, as far as they matter here: they rewrite the tables of roles, and
  they end cached contexts. -/
  | changeRoles (roles : List Role) (adminUserRoles : List AdminUserRole)
      (rolePermissions : List RolePermission) (keys : List AuthTokenCacheKey)
  | restart

/-- Replaces the request under a number. -/
def AuthState.setRequest (state : AuthState) (id : Nat) (request : Request) : AuthState :=
  { state with requests := state.requests.set id request }

variable (libraries : AuthLibraries)

def stepAuth (state : AuthState) : AuthAction → Option AuthState
  | .start endpoint headers =>
      let request := startRequestOf endpoint headers
      if libraries.usesToken request.rawToken then
        some { state with requests := state.requests ++ [request] }
      else none
  | .act id entropy => do
      let request ← state.requests[id]?
      let (server, stepped) ← requestStep libraries state.server request entropy
      return { state.setRequest id stepped with server }
  | .fail id message => do
      let request ← state.requests[id]?
      if request.phase.isStatement then
        let error := request.databaseError message
        return state.setRequest id { request with phase := .responded (.error error) }
      else none
  | .abort id => do
      let request ← state.requests[id]?
      return state.setRequest id request.abort
  | .advance elapsed =>
      some { state with server := { state.server with now := state.server.now + elapsed } }
  | .changeRoles roles adminUserRoles rolePermissions keys =>
      let server := state.server
      some
        { state with
          server :=
            { server with
              db := { server.db with roles, adminUserRoles, rolePermissions }
              cache := keys.foldl (·.invalidateKey ·) server.cache } }
  | .restart =>
      some
        { server := { state.server with cache := .new }
          requests := state.requests.map Request.abort }

/-- No token was issued, and the process has just started. -/
structure AuthState.IsInitial (state : AuthState) : Prop where
  tokens : ∀ kind, (state.server.db.tokens kind).rows = []
  cache : state.server.cache = .new
  issued : state.server.issued = []
  requests : state.requests = []

abbrev ReachableAuth (state : AuthState) : Prop :=
  Reachable (stepAuth libraries) AuthState.IsInitial state

------------------------------------------------------------
-- What a step does to the shared state
------------------------------------------------------------

/-- A cache with no more entries than before, and the same settings. -/
structure CacheShrinks (before after : AuthTokenCache) : Prop where
  peek : ∀ key entry, after.peek key = some entry → before.peek key = some entry
  ttl : after.ttl = before.ttl
  enabled : after.entries.isSome = before.entries.isSome

/-- The effect of a step of a request on what all requests share. -/
inductive ServerEffect (server : AuthServer) (request : Request) : AuthServer → Prop
  | same : ServerEffect server request server
  | shrunk {cache : AuthTokenCache} (shrinks : CacheShrinks server.cache cache)
    : ServerEffect server request { server with cache }
  | inserted {context : BearerTokenContext} (pending : request.phase = .insertCache context)
    : ServerEffect server request
        { server with
          cache := server.cache.insertBearerContext libraries server.now request.rawToken context }
  | issued {owner : Principal} {bytes : TokenBytes} {db : AuthDatabase}
      (stored
        : createToken server.db owner.kind
            { ownerId := owner.id
              tokenHash := libraries.hashToken (generateRawToken bytes)
              tokenPrefix := tokenPrefix (generateRawToken bytes)
              expiresAt := server.now + accessTokenTtl }
          = .ok db)
      (used : libraries.usesToken (generateRawToken bytes) = true)
      (isNew : ∀ token ∈ server.issued, token.rawToken ≠ generateRawToken bytes)
    : ServerEffect server request
        { server with
          db
          issued := server.issued ++
            [{ rawToken := generateRawToken bytes
               owner
               tokenId := (server.db.tokens owner.kind).nextId
               expiresAt := server.now + accessTokenTtl }] }
  | revoked (kind : PrincipalKind) (id : Int) (reason : Option String)
    : ServerEffect server request
        { server with db := revokeToken server.db kind server.now id reason }
  | createdUser {payload : CreateAdminUserRequest} {new : NewAdminUser} {roleIds : List Int}
      {db : AuthDatabase} (endpoint : request.endpoint = .createAdminUser payload)
      (phase : request.phase = .handle (.createUser roleIds))
      (email : new.email = UnicodeText.trim payload.email)
      (created : createAdminUserWithRoles server.db new payload.isActive roleIds = .ok db)
    : ServerEffect server request { server with db }
  | updatedUser {userId : Int} {payload : UpdateAdminUserRequest} {salt : String}
      {roleIds : List Int} {user : AdminUser} {db : AuthDatabase}
      (endpoint : request.endpoint = .updateAdminUser userId payload)
      (phase : request.phase = .handle (.updateUser roleIds))
      (updated
        : updateAdminUser server.db userId (payload.params libraries salt) = .ok (some user, db))
    : ServerEffect server request { server with db }
  | deletedUser {userId : Int} {user : AdminUser} {db : AuthDatabase}
      (endpoint : request.endpoint = .deleteAdminUser userId)
      (phase : request.phase = .handle .deleteUser)
      (deleted : deleteAdminUser server.db userId = (some user, db))
    : ServerEffect server request { server with db }
  | createdClient {new : NewApiClient} {client : ApiClient} {db : AuthDatabase}
      (created : createApiClient server.db new = .ok (client, db))
    : ServerEffect server request { server with db }
  | setClient {clientId : Int} {set : ApiClient → ApiClient}
      {keeps : ∀ client, (set client).id = client.id} {client : ApiClient} {db : AuthDatabase}
      (isSet : setApiClient server.db clientId set keeps = (some client, db))
    : ServerEffect server request { server with db }
  | deletedClient {clientId : Int} {db : AuthDatabase}
      (deleted : deleteApiClient server.db clientId = (true, db))
    : ServerEffect server request { server with db }
  | others {db : AuthDatabase} (adminUsers : db.adminUsers = server.db.adminUsers)
      (apiClients : db.apiClients = server.db.apiClients) (tokens : db.tokens = server.db.tokens)
    : ServerEffect server request { server with db }

theorem CacheShrinks.refl (cache : AuthTokenCache) : CacheShrinks cache cache :=
  ⟨fun _ _ => id, rfl, rfl⟩

theorem CacheShrinks.trans {first second third : AuthTokenCache}
    (before : CacheShrinks first second) (after : CacheShrinks second third)
    : CacheShrinks first third where
  peek key entry left := before.peek key entry (after.peek key entry left)
  ttl := after.ttl.trans before.ttl
  enabled := after.enabled.trans before.enabled

theorem CacheShrinks.invalidateKey (cache : AuthTokenCache) (key : AuthTokenCacheKey)
    : CacheShrinks cache (cache.invalidateKey key) where
  peek other entry left := by
    rw [AuthTokenCache.peek_invalidateKey] at left
    split at left
    · cases left
    · exact left
  ttl := rfl
  enabled := Option.isSome_map

/-- Removing one key after the other, by induction over the keys. -/
theorem CacheShrinks.invalidateKeys {Item : Type} (toKey : Item → AuthTokenCacheKey)
    (items : List Item) (cache : AuthTokenCache)
    : CacheShrinks cache
        (items.foldl (fun cache item => cache.invalidateKey (toKey item)) cache) := by
  induction items generalizing cache with
  | nil => exact .refl cache
  | cons item rest ih => exact (CacheShrinks.invalidateKey cache (toKey item)).trans (ih _)

theorem CacheShrinks.invalidateTokens (cache : AuthTokenCache) (tokens : List AdminAccessToken)
    : CacheShrinks cache (Api.invalidateTokens cache tokens) :=
  .invalidateKeys (fun token : AdminAccessToken => ⟨token.tokenPrefix, token.tokenHash⟩) tokens
    cache

theorem CacheShrinks.invalidateRawToken (cache : AuthTokenCache) (rawToken : String)
    : CacheShrinks cache (cache.invalidateRawToken libraries rawToken) := by
  unfold AuthTokenCache.invalidateRawToken
  split
  · exact .refl cache
  · exact .invalidateKey cache _

section Effects

variable {libraries} {server after : AuthServer} {request : Request} {entropy : Entropy}

theorem CacheShrinks.lookup (cache : AuthTokenCache) (now : Timestamp) (token : String)
    (lookup : TokenLookup)
    : CacheShrinks cache (lookup.cached libraries cache now token).2 where
  peek _ _ left := TokenLookup.peek_of_peek_cached left
  ttl := TokenLookup.cached_settings.1
  enabled := TokenLookup.cached_settings.2

/-- Each step of a handler has one effect. -/
theorem handlerStepped_effect {next : Phase} {current : HandlerPhase}
    (isPhase : request.phase = .handle current)
    (stepped : HandlerStepped libraries server request current after next)
    : ServerEffect libraries server request after := by
  cases stepped with
  | rejected | credentials | recorded | audited | resolvedForCreation | resolvedForUpdate | counted
  | listed | responded => exact .same
  | inserted stored used isNew => exact .issued stored used isNew
  | revokedToken => exact .revoked .apiClient _ _
  | loggedOut => exact .revoked .adminUser _ _
  | endedRawToken => exact .shrunk (.invalidateRawToken _ _ _)
  | endedHashedToken => exact .shrunk (.invalidateKey _ _)
  | createdUser endpoint email created => exact .createdUser endpoint isPhase email created
  | updatedUser endpoint updated => exact .updatedUser endpoint isPhase updated
  | replacedRoles replaced =>
      obtain ⟨_, rfl⟩ := replaceRolesForAdminUser_ok replaced
      exact .others rfl rfl rfl
  | endedTokensForUpdate tokens => exact .shrunk (.invalidateTokens _ tokens)
  | endedTokensForDeletion tokens => exact .shrunk (.invalidateTokens _ tokens)
  | deletedUser endpoint deleted => exact .deletedUser endpoint isPhase deleted
  | createdClient endpoint created => exact .createdClient created
  | replacedScopes replaced =>
      obtain ⟨_, rfl⟩ := replaceApiClientScopes_ok replaced
      exact .others rfl rfl rfl
  | updatedClient endpoint updated => exact .setClient updated
  | rotatedSecret endpoint rotated => exact .setClient rotated
  | deletedClient endpoint deleted => exact .deletedClient deleted

/-- Each step of a request has one effect. -/
theorem requestStepped_effect {stepped : Request}
    (taken : RequestStepped libraries server request entropy after stepped)
    : ServerEffect libraries server request after := by
  cases taken with
  | lookedUp phase => exact .shrunk (.lookup _ _ _ _)
  | foundKind | rejected | read => exact .same
  | inserted pending => exact .inserted pending
  | handled phase handles => exact handlerStepped_effect phase (handlerStep_cases handles)

end Effects

------------------------------------------------------------
-- The steps of the system
------------------------------------------------------------

/-- A step is that of a request. -/
def OwnStep (libraries : AuthLibraries) (id : Nat) (state next : AuthState) : Prop :=
  ∃ entropy, stepAuth libraries state (.act id entropy) = some next

/-- The steps of the system; a request ends when a statement of it fails or when it is dropped. -/
inductive AuthStepped (libraries : AuthLibraries) (state : AuthState) : AuthState → Prop
  | started {endpoint : Endpoint} {headers : AuthHeaders}
      (used : libraries.usesToken (startRequestOf endpoint headers).rawToken = true)
    : AuthStepped libraries state
        { state with requests := state.requests ++ [startRequestOf endpoint headers] }
  | acted {id : Nat} {request stepped : Request} {entropy : Entropy} {after : AuthServer}
      (found : state.requests[id]? = some request)
      (steps : RequestStepped libraries state.server request entropy after stepped)
      (own : OwnStep libraries id state { state.setRequest id stepped with server := after })
    : AuthStepped libraries state { state.setRequest id stepped with server := after }
  | ended {id : Nat} {request : Request} {phase : Phase}
      (found : state.requests[id]? = some request) (finished : phase.isOver = true)
    : AuthStepped libraries state (state.setRequest id { request with phase })
  | advanced (elapsed : Nat)
    : AuthStepped libraries state
        { state with server := { state.server with now := state.server.now + elapsed } }
  | changedRoles {roles : List Role} {adminUserRoles : List AdminUserRole}
      {rolePermissions : List RolePermission} {cache : AuthTokenCache}
      (shrinks : CacheShrinks state.server.cache cache)
    : AuthStepped libraries state
        { state with
          server :=
            { state.server with
              db := { state.server.db with roles, adminUserRoles, rolePermissions }
              cache } }
  | restarted
    : AuthStepped libraries state
        { server := { state.server with cache := .new }
          requests := state.requests.map Request.abort }

/-- What has become of a request in a step. -/
inductive RequestChanged (libraries : AuthLibraries) (state next : AuthState) (id : Nat)
    (request : Request)
    : Prop
  | same (found : state.requests[id]? = some request)
  | arrived {endpoint : Endpoint} {headers : AuthHeaders}
      (used : libraries.usesToken request.rawToken = true)
      (isNew : id = state.requests.length) (isRequest : request = startRequestOf endpoint headers)
  | ended {before : Request} {phase : Phase} (found : state.requests[id]? = some before)
      (finished : phase.isOver = true) (isRequest : request = { before with phase })
  | stepped {before : Request} {entropy : Entropy} (found : state.requests[id]? = some before)
      (steps : RequestStepped libraries state.server before entropy next.server request)
      (own : OwnStep libraries id state next)

section Steps

variable {libraries} {state next : AuthState} {request : Request} {id : Nat}

theorem abort_cases (request : Request)
    : ∃ phase, phase.isOver = true ∧ request.abort = { request with phase } := by
  unfold Request.abort
  split
  · exact ⟨request.phase, ‹_›, rfl⟩
  · exact ⟨.aborted, rfl, rfl⟩

theorem stepAuth_cases {action : AuthAction}
    (taken : stepAuth libraries state action = some next)
    : AuthStepped libraries state next := by
  cases action with
  | start endpoint headers =>
      simp only [stepAuth] at taken
      split at taken
      · cases taken
        exact .started ‹_›
      · cases taken
  | act id entropy =>
      have own : OwnStep libraries id state next := ⟨entropy, taken⟩
      obtain ⟨request, found, taken⟩ := Option.bind_eq_some_iff.mp taken
      obtain ⟨⟨server, stepped⟩, steps, taken⟩ := Option.bind_eq_some_iff.mp taken
      cases taken
      exact .acted found (requestStep_cases steps) own
  | fail id message =>
      obtain ⟨request, found, taken⟩ := Option.bind_eq_some_iff.mp taken
      split at taken
      · cases taken
        exact .ended found rfl
      · cases taken
  | abort id =>
      obtain ⟨request, found, taken⟩ := Option.bind_eq_some_iff.mp taken
      cases taken
      obtain ⟨phase, finished, same⟩ := abort_cases request
      rw [same]
      exact .ended found finished
  | advance elapsed =>
      cases taken
      exact .advanced elapsed
  | changeRoles roles adminUserRoles rolePermissions keys =>
      cases taken
      exact .changedRoles (.invalidateKeys (fun key => key) keys state.server.cache)
  | restart =>
      cases taken
      exact .restarted

/-- Whether an action is not the next step of a request. -/
def AuthAction.isQuiet : AuthAction → Bool
  | .act _ _ => false
  | _ => true

/-- Only requests change the admin users. -/
theorem adminUsers_of_quiet {action : AuthAction} (quiet : action.isQuiet = true)
    (taken : stepAuth libraries state action = some next)
    : next.server.db.adminUsers = state.server.db.adminUsers := by
  cases action with
  | start endpoint headers =>
      simp only [stepAuth] at taken
      split at taken <;> cases taken
      rfl
  | act id entropy => cases quiet
  | fail id message =>
      obtain ⟨_, _, taken⟩ := Option.bind_eq_some_iff.mp taken
      split at taken <;> cases taken
      rfl
  | abort id =>
      obtain ⟨_, _, taken⟩ := Option.bind_eq_some_iff.mp taken
      cases taken
      rfl
  | advance elapsed | changeRoles roles adminUserRoles rolePermissions keys | restart =>
      cases taken
      rfl

/-- A request after another one was replaced. -/
theorem setRequest_cases {changed : Request} {other : Nat}
    (found : (state.setRequest id changed).requests[other]? = some request)
    : other = id ∧ request = changed ∨ state.requests[other]? = some request := by
  simp only [AuthState.setRequest, List.getElem?_set] at found
  split at found
  · rename_i same
    split at found
    · exact .inl ⟨same.symm, (Option.some.inj found).symm⟩
    · cases found
  · exact .inr found

/-- A request after another one has arrived. -/
theorem arrived_cases {requests : List Request} {new : Request}
    (found : (requests ++ [new])[id]? = some request)
    : requests[id]? = some request ∨ id = requests.length ∧ request = new := by
  rcases Nat.lt_or_ge id requests.length with before | after
  · exact .inl ((List.getElem?_append_left before).symm.trans found)
  · rw [List.getElem?_append_right after] at found
    have bound := (List.getElem?_eq_some_iff.mp found).1
    simp only [List.length_singleton] at bound
    have isNew : id - requests.length = 0 := by omega
    rw [isNew] at found
    exact .inr ⟨by omega, (Option.some.inj found).symm⟩

/-- What becomes of any one request in a step of the system. -/
theorem authStepped_request (steps : AuthStepped libraries state next)
    (found : next.requests[id]? = some request)
    : RequestChanged libraries state next id request := by
  cases steps with
  | started used =>
      rcases arrived_cases found with before | ⟨isNew, rfl⟩
      · exact .same before
      · exact .arrived used isNew rfl
  | acted isBefore steps own =>
      rcases setRequest_cases found with ⟨rfl, rfl⟩ | before
      · exact .stepped isBefore steps own
      · exact .same before
  | ended isBefore finished =>
      rcases setRequest_cases found with ⟨rfl, rfl⟩ | before
      · exact .ended isBefore finished rfl
      · exact .same before
  | advanced | changedRoles => exact .same found
  | restarted =>
      rw [List.getElem?_map, Option.map_eq_some_iff] at found
      obtain ⟨before, isBefore, rfl⟩ := found
      obtain ⟨phase, finished, same⟩ := abort_cases before
      exact .ended isBefore finished same

end Steps

------------------------------------------------------------
-- A small installation
------------------------------------------------------------

/-- A token of equal bytes. -/
def smallToken (byte : UInt8) : String := generateRawToken (.replicate 32 byte)

/-- Random values of equal bytes. -/
def smallEntropy (byte : UInt8) : Entropy where
  tokenBytes := .replicate 32 byte
  secretBytes := .replicate 32 byte
  salt := "salt"

/-- SHA-256 on two tokens and on no token, passwords hashed behind their salt, and the lower case
of ASCII.
-/
def smallAuthLibraries : AuthLibraries where
  hashToken := fun text =>
    if text = "" then "e3b0c44298fc1c149afbf4c8996fb92427ae41e4649b934ca495991b7852b855"
    else if text = smallToken 1 then
      "58badd9b455145b487ad24c7f259cc437cc4ffd0784716845249321fb5961cfc"
    else "749f1a97ff6cd00ea46ccb3a47bb123283fe56c8fa324bea295d928f558161df"
  usesToken := fun text => text = "" || text = smallToken 1 || text = smallToken 2
  hashPassword := fun salt password => salt ++ "$" ++ password
  verifyPasswordHash := fun hash password => hash = "salt$" ++ password
  lower := fun text => .ofList (text.toList.map Char.toLower)

theorem smallAuthLibraries_collisionFree : smallAuthLibraries.CollisionFree where
  injective first second isFirst isSecond same := by
    simp only [smallAuthLibraries, Bool.or_eq_true, decide_eq_true_eq] at isFirst isSecond
    rcases isFirst with (rfl | rfl) | rfl <;> rcases isSecond with (rfl | rfl) | rfl
    all_goals first | rfl | exact absurd same (by decide +kernel)

/-- An installation at its start, without tokens. -/
def smallAuthState (adminUsers : SerialTable AdminUser AdminUser.id)
    (apiClients : SerialTable ApiClient ApiClient.id)
    : AuthState where
  server :=
    { db :=
        { adminUsers
          roles := [⟨1, "owner"⟩]
          adminUserRoles := adminUsers.rows.map fun user => ⟨user.id, 1⟩
          rolePermissions := [⟨1, .usersWrite⟩, ⟨1, .apiClientsWrite⟩]
          apiClients
          apiClientScopes := []
          tokens := fun _ => .empty }
      cache := .new
      now := 0
      issued := [] }
  requests := []

theorem smallAuthState_initial (adminUsers : SerialTable AdminUser AdminUser.id)
    (apiClients : SerialTable ApiClient ApiClient.id)
    : (smallAuthState adminUsers apiClients).IsInitial :=
  ⟨fun _ => rfl, rfl, rfl, rfl⟩

/-- An active admin user with the password `secret`. -/
def smallAdmin (email : String) (id : Int) : AdminUser where
  id := id
  email := email
  displayName := "Admin"
  passwordHash := "salt$secret"
  isActive := true

/-- An active API client with the secret `secret`. -/
def smallClient (id : Int) : ApiClient where
  id := id
  name := "Shop"
  description := none
  clientType := .internalService
  clientId := "ac_shop"
  clientSecretHash := "salt$secret"
  secretPrefix := "secret"
  isActive := true
  createdByUserId := none

def smallAdmins (emails : List String) : SerialTable AdminUser AdminUser.id :=
  emails.foldl (fun table email => table.insert (smallAdmin email)) .empty

def smallClients : SerialTable ApiClient ApiClient.id := .insert .empty smallClient

def noHeaders : AuthHeaders := ⟨none, none⟩

/-- A request takes a number of steps. -/
def actTimes (id : Nat) (byte : UInt8) (times : Nat) : List AuthAction :=
  .replicate times (.act id (smallEntropy byte))

end AlonSentinel.System
