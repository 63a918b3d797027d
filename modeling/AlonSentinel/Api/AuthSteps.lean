import AlonSentinel.Api.AuthHandlers

/-! What each step of a request may do, said once: how a request comes to its handler, and from
which phase a handler goes to which one.
-/

namespace AlonSentinel.Api

open Auth
open Domain
open KeyedTable
open UnicodeText

variable {libraries : AuthLibraries} {server after : AuthServer} {request stepped : Request}
  {entropy : Entropy} {context : BearerTokenContext}

/-- A phase that a handler may begin with, or the end of the request. -/
def Phase.IsStart : Phase → Prop
  | .handle phase => phase.isFirst = true
  | phase => phase.isOver = true

theorem Phase.ofChecked_isStart {next : HandlerPhase} (first : next.isFirst = true)
    (checked : Except ApiError Unit)
    : (Phase.ofChecked next checked).IsStart := by
  cases checked with
  | error error => exact rfl
  | ok passed => exact first

theorem resolveRoleIds_isFirst {roleKeys : List String} {next : List Int → HandlerPhase}
    (first : (next []).isFirst = true)
    : (resolveRoleIds roleKeys next).isFirst = true := by
  unfold resolveRoleIds
  split
  · exact first
  · rfl

theorem startHandler_isStart (endpoint : Endpoint) (rawToken : String)
    (context : BearerTokenContext)
    : (startHandler endpoint rawToken context).IsStart := by
  unfold startHandler
  cases endpoint with
  | issueToken _ | issueAdminToken _ | logoutAdmin | other _ => exact rfl
  | createAdminUser _ | updateAdminUser _ _ =>
      exact Phase.ofChecked_isStart (resolveRoleIds_isFirst rfl) _
  | revokeToken _ | deleteAdminUser _ | createApiClient _ | updateApiClient _ _
  | deleteApiClient _ | rotateApiClientSecret _ =>
      exact Phase.ofChecked_isStart rfl _

/-- Whether a request is over without success. -/
def Phase.hasFailed : Phase → Bool
  | .responded (.error _) | .aborted => true
  | _ => false

/-- Whether a request was answered with success. -/
def Phase.hasSucceeded : Phase → Bool
  | .responded (.ok _) => true
  | _ => false

theorem Phase.isOver_of_hasFailed {phase : Phase} (failed : phase.hasFailed = true)
    : phase.isOver = true := by
  cases phase with
  | responded _ | aborted => rfl
  | _ => cases failed

/-- An authenticated request is in its handler with the context, or over without one. -/
theorem Request.authenticated_cases (request : Request) (context : BearerTokenContext)
    : request.authenticated context
        = { request with
            context := some context
            phase := startHandler request.endpoint request.rawToken context }
      ∨ ∃ phase,
          phase.hasFailed = true ∧ request.authenticated context = { request with phase } := by
  unfold Request.authenticated
  split
  · exact .inr ⟨.aborted, rfl, rfl⟩
  · rename_i extractor _
    cases accepted : extractor.accept context with
    | error error => exact .inr ⟨_, rfl, rfl⟩
    | ok passed =>
        have same : passed = context := by
          unfold Extractor.accept at accepted
          split at accepted
          · cases accepted
          · cases accepted
            rfl
        subst same
        exact .inl rfl

/-- A request that arrives has no context yet, and is at the start of its authentication or of
its handler.
-/
theorem startRequestOf_cases (endpoint : Endpoint) (headers : AuthHeaders)
    : (startRequestOf endpoint headers).context = none
      ∧ ((startRequestOf endpoint headers).phase.IsStart
        ∨ ∃ lookup, (startRequestOf endpoint headers).phase = .lookupCache lookup) := by
  unfold startRequestOf
  split
  · refine ⟨rfl, .inl ?_⟩
    dsimp only
    apply Phase.ofChecked_isStart
    rfl
  · refine ⟨rfl, .inl ?_⟩
    dsimp only
    apply Phase.ofChecked_isStart
    rfl
  · exact ⟨rfl, .inl rfl⟩
  · split
    · exact ⟨rfl, .inr ⟨_, rfl⟩⟩
    · exact ⟨rfl, .inl rfl⟩

------------------------------------------------------------
-- The steps of a handler
------------------------------------------------------------

/-- The steps of a handler: the phase before it, what all requests share after it, and what the
request does next. Every phase may also answer an error.
-/
inductive HandlerStepped (libraries : AuthLibraries) (server : AuthServer) (request : Request)
    : HandlerPhase → AuthServer → Phase → Prop
  | rejected {current : HandlerPhase} (error : ApiError) (checks : current ≠ .invalidate)
    : HandlerStepped libraries server request current server (.responded (.error error))
  | credentials (owner : Principal)
    : HandlerStepped libraries server request .readCredentials server
        (.handle (.insertToken owner))
  | inserted {owner : Principal} {bytes : TokenBytes} {db : AuthDatabase}
      (stored
        : createToken server.db owner.kind
            { ownerId := owner.id
              tokenHash := libraries.hashToken (generateRawToken bytes)
              tokenPrefix := tokenPrefix (generateRawToken bytes)
              expiresAt := server.now + accessTokenTtl }
          = .ok db)
      (used : libraries.usesToken (generateRawToken bytes) = true)
      (isNew : ∀ token ∈ server.issued, token.rawToken ≠ generateRawToken bytes)
    : HandlerStepped libraries server request (.insertToken owner)
        { server with
          db
          issued := server.issued ++
            [{ rawToken := generateRawToken bytes
               owner
               tokenId := (server.db.tokens owner.kind).nextId
               expiresAt := server.now + accessTokenTtl }] }
        (.handle .recordIssue)
  | recorded : HandlerStepped libraries server request .recordIssue server (.responded (.ok ()))
  | revokedToken {payload : RevokeTokenRequest} {context : AccessTokenContext}
      (endpoint : request.endpoint = .revokeToken payload)
      (isContext : request.context = some (.apiClient context))
    : HandlerStepped libraries server request .revoke
        { server with
          db := revokeAccessToken server.db server.now context.token.id payload.revokedReason }
        (.handle .auditRevocation)
  | loggedOut {context : AdminAccessTokenContext} (endpoint : request.endpoint = .logoutAdmin)
      (isContext : request.context = some (.adminUser context))
    : HandlerStepped libraries server request .revoke
        { server with
          db :=
            revokeAdminAccessToken server.db server.now context.token.id (some "admin_logout") }
        (.handle .invalidate)
  | audited
    : HandlerStepped libraries server request .auditRevocation server (.handle .invalidate)
  | endedRawToken {payload : RevokeTokenRequest}
      (endpoint : request.endpoint = .revokeToken payload)
    : HandlerStepped libraries server request .invalidate
        { server with cache := server.cache.invalidateRawToken libraries request.rawToken }
        (.responded (.ok ()))
  | endedHashedToken {context : BearerTokenContext} (endpoint : request.endpoint = .logoutAdmin)
      (isContext : request.context = some context)
    : HandlerStepped libraries server request .invalidate
        { server with
          cache :=
            server.cache.invalidateHashedToken context.token.tokenPrefix context.token.tokenHash }
        (.responded (.ok ()))
  | resolvedForCreation {payload : CreateAdminUserRequest} (roleIds : List Int)
      (endpoint : request.endpoint = .createAdminUser payload)
    : HandlerStepped libraries server request .resolveRoles server
        (.handle (.createUser roleIds))
  | resolvedForUpdate {userId : Int} {payload : UpdateAdminUserRequest} (roleIds : List Int)
      (endpoint : request.endpoint = .updateAdminUser userId payload)
    : HandlerStepped libraries server request .resolveRoles server
        (.handle (.updateUser roleIds))
  | createdUser {payload : CreateAdminUserRequest} {new : NewAdminUser} {roleIds : List Int}
      {db : AuthDatabase} (endpoint : request.endpoint = .createAdminUser payload)
      (email : new.email = trim payload.email)
      (created : createAdminUserWithRoles server.db new payload.isActive roleIds = .ok db)
    : HandlerStepped libraries server request (.createUser roleIds) { server with db }
        (.handle .readResponse)
  | updatedUser {userId : Int} {payload : UpdateAdminUserRequest} {salt : String}
      {roleIds : List Int} {user : AdminUser} {db : AuthDatabase}
      (endpoint : request.endpoint = .updateAdminUser userId payload)
      (updated
        : updateAdminUser server.db userId (payload.params libraries salt) = .ok (some user, db))
    : HandlerStepped libraries server request (.updateUser roleIds) { server with db }
        (.handle (.replaceRoles user.id roleIds))
  | replacedRoles {userId : Int} {roleIds : List Int} {db : AuthDatabase}
      (replaced : replaceRolesForAdminUser server.db userId roleIds = .ok db)
    : HandlerStepped libraries server request (.replaceRoles userId roleIds) { server with db }
        (.handle (.listTokens userId))
  | counted {userId : Int} (endpoint : request.endpoint = .deleteAdminUser userId)
      (several : 1 < countActiveAdminUsers server.db)
    : HandlerStepped libraries server request .countActive server (.handle (.listTokens userId))
  | listed (userId : Int)
    : HandlerStepped libraries server request (.listTokens userId) server
        (.handle
          (.invalidateTokens (listActiveTokensForAdminUser server.db server.now userId)))
  | endedTokensForUpdate {userId : Int} {payload : UpdateAdminUserRequest}
      (tokens : List AdminAccessToken)
      (endpoint : request.endpoint = .updateAdminUser userId payload)
    : HandlerStepped libraries server request (.invalidateTokens tokens)
        { server with cache := invalidateTokens server.cache tokens } (.handle .readResponse)
  | endedTokensForDeletion {userId : Int} (tokens : List AdminAccessToken)
      (endpoint : request.endpoint = .deleteAdminUser userId)
    : HandlerStepped libraries server request (.invalidateTokens tokens)
        { server with cache := invalidateTokens server.cache tokens } (.handle .deleteUser)
  | deletedUser {userId : Int} {user : AdminUser} {db : AuthDatabase}
      (endpoint : request.endpoint = .deleteAdminUser userId)
      (deleted : deleteAdminUser server.db userId = (some user, db))
    : HandlerStepped libraries server request .deleteUser { server with db }
        (.responded (.ok ()))
  | createdClient {payload : CreateApiClientRequest} {new : NewApiClient} {client : ApiClient}
      {db : AuthDatabase} (endpoint : request.endpoint = .createApiClient payload)
      (created : createApiClient server.db new = .ok (client, db))
    : HandlerStepped libraries server request .createClient { server with db }
        (.handle (.replaceScopes client.id))
  | replacedScopes {clientId : Int} {scopes : List String} {db : AuthDatabase}
      (replaced : replaceApiClientScopes server.db clientId scopes = .ok db)
    : HandlerStepped libraries server request (.replaceScopes clientId) { server with db }
        (.responded (.ok ()))
  | updatedClient {clientId : Int} {payload : UpdateApiClientRequest} {client : ApiClient}
      {db : AuthDatabase} (endpoint : request.endpoint = .updateApiClient clientId payload)
      (updated
        : updateApiClient server.db clientId (trim payload.name) payload.description
            payload.isActive
          = (some client, db))
    : HandlerStepped libraries server request .updateClient { server with db }
        (.handle .readResponse)
  | rotatedSecret {clientId : Int} {secretHash secretPrefix : String} {client : ApiClient}
      {db : AuthDatabase} (endpoint : request.endpoint = .rotateApiClientSecret clientId)
      (rotated
        : Domain.rotateApiClientSecret server.db clientId secretHash secretPrefix
          = (some client, db))
    : HandlerStepped libraries server request .rotateSecret { server with db }
        (.handle .readResponse)
  | deletedClient {clientId : Int} {db : AuthDatabase}
      (endpoint : request.endpoint = .deleteApiClient clientId)
      (deleted : deleteApiClient server.db clientId = (true, db))
    : HandlerStepped libraries server request .deleteClient { server with db }
        (.responded (.ok ()))
  | responded : HandlerStepped libraries server request .readResponse server (.responded (.ok ()))

/-- What follows a statement that returns a row, or none. -/
theorem orNotFound_cases {Row : Type} {result : Option Row × AuthDatabase} {message : String}
    {next : Row → Phase} {phase : Phase}
    (taken : some (orNotFound server result message next) = some (after, phase))
    : (∃ row db, result = (some row, db) ∧ after = { server with db } ∧ phase = next row)
      ∨ after = server ∧ phase = .responded (.error (.notFound message)) := by
  obtain ⟨row, db⟩ := result
  cases row with
  | none =>
      cases taken
      exact .inr ⟨rfl, rfl⟩
  | some row =>
      cases taken
      exact .inl ⟨row, db, rfl, rfl, rfl⟩

theorem handlerStep_cases {current : HandlerPhase} {next : Phase}
    (taken : handlerStep libraries server request entropy current = some (after, next))
    : HandlerStepped libraries server request current after next := by
  cases current with
  | readCredentials =>
      obtain ⟨_, read, same⟩ := Option.map_eq_some_iff.mp taken
      cases same
      unfold stepReadCredentials at read
      split at read
      · split at read <;> cases read
        · exact .credentials _
        · exact .rejected _ nofun
      · split at read <;> cases read
        · exact .credentials _
        · exact .rejected _ nofun
      · cases read
  | insertToken owner =>
      simp only [handlerStep, stepInsertToken] at taken
      split at taken
      · cases taken
      · rename_i db stored
        split at taken
        · rename_i isNew
          cases taken
          obtain ⟨used, isNew⟩ := Bool.and_eq_true_iff.mp isNew
          exact .inserted stored used fun token member =>
            of_decide_eq_true (List.all_eq_true.mp isNew token member)
        · cases taken
  | recordIssue =>
      cases taken
      exact .recorded
  | revoke =>
      obtain ⟨context, isContext, taken⟩ := Option.bind_eq_some_iff.mp taken
      unfold stepRevoke at taken
      split at taken
      · cases taken
        exact .revokedToken ‹_› isContext
      · cases taken
        exact .loggedOut ‹_› isContext
      · cases taken
  | auditRevocation =>
      cases taken
      exact .audited
  | invalidate =>
      obtain ⟨context, isContext, taken⟩ := Option.bind_eq_some_iff.mp taken
      unfold stepInvalidate at taken
      split at taken
      · cases taken
        exact .endedRawToken ‹_›
      · cases taken
        exact .endedHashedToken ‹_› isContext
      · cases taken
  | resolveRoles =>
      obtain ⟨_, resolved, same⟩ := Option.map_eq_some_iff.mp taken
      cases same
      simp only [stepResolveRoles] at resolved
      split at resolved
      · have isNext := Option.some.inj resolved
        split at isNext <;> subst isNext
        · exact .rejected _ nofun
        · exact .resolvedForCreation _ ‹_›
      · have isNext := Option.some.inj resolved
        split at isNext <;> subst isNext
        · exact .rejected _ nofun
        · exact .resolvedForUpdate _ ‹_›
      · cases resolved
  | createUser roleIds =>
      simp only [handlerStep, stepCreateUser] at taken
      split at taken
      · split at taken
        · rename_i db created
          cases taken
          exact .createdUser ‹_› rfl created
        · cases taken
      · cases taken
  | updateUser roleIds =>
      simp only [handlerStep, stepUpdateUser] at taken
      split at taken
      · split at taken
        · rename_i result updated
          rcases orNotFound_cases taken with ⟨user, db, rfl, rfl, rfl⟩ | ⟨rfl, rfl⟩
          · exact .updatedUser ‹_› updated
          · exact .rejected _ nofun
        · cases taken
      · cases taken
  | replaceRoles userId roleIds =>
      simp only [handlerStep] at taken
      split at taken
      · cases taken
        exact .replacedRoles ‹_›
      · cases taken
  | countActive =>
      simp only [handlerStep] at taken
      split at taken
      · split at taken
        · cases taken
          exact .rejected _ nofun
        · cases taken
          exact .counted ‹_› (Nat.not_le.mp ‹_›)
      · cases taken
  | listTokens userId =>
      cases taken
      exact .listed userId
  | invalidateTokens tokens =>
      simp only [handlerStep, stepInvalidateTokens] at taken
      split at taken
      · cases taken
        exact .endedTokensForUpdate tokens ‹_›
      · cases taken
        exact .endedTokensForDeletion tokens ‹_›
      · cases taken
  | deleteUser =>
      simp only [handlerStep, stepDeleteUser] at taken
      split at taken
      · rcases orNotFound_cases taken with ⟨user, db, deleted, rfl, rfl⟩ | ⟨rfl, rfl⟩
        · exact .deletedUser ‹_› deleted
        · exact .rejected _ nofun
      · cases taken
  | createClient =>
      obtain ⟨context, _, taken⟩ := Option.bind_eq_some_iff.mp taken
      simp only [stepCreateClient] at taken
      split at taken
      · split at taken
        · cases taken
        · split at taken
          · rename_i client db created
            cases taken
            exact .createdClient ‹_› created
          · cases taken
      · cases taken
  | replaceScopes clientId =>
      simp only [handlerStep, stepReplaceScopes] at taken
      split at taken
      · split at taken
        · cases taken
          exact .replacedScopes ‹_›
        · cases taken
      · cases taken
  | updateClient =>
      simp only [handlerStep, stepUpdateClient] at taken
      split at taken
      · rcases orNotFound_cases taken with ⟨client, db, updated, rfl, rfl⟩ | ⟨rfl, rfl⟩
        · exact .updatedClient ‹_› updated
        · exact .rejected _ nofun
      · cases taken
  | rotateSecret =>
      simp only [handlerStep, stepRotateSecret] at taken
      split at taken
      · rcases orNotFound_cases taken with ⟨client, db, rotated, rfl, rfl⟩ | ⟨rfl, rfl⟩
        · exact .rotatedSecret ‹_› rotated
        · exact .rejected _ nofun
      · cases taken
  | deleteClient =>
      simp only [handlerStep, stepDeleteClient] at taken
      split at taken
      · split at taken
        · rename_i clientId isEndpoint deleted
          cases taken
          exact .deletedClient isEndpoint (Prod.ext deleted rfl)
        · cases taken
          exact .rejected _ nofun
      · cases taken
  | readResponse =>
      cases taken
      exact .responded

------------------------------------------------------------
-- The steps of a request
------------------------------------------------------------

/-- The steps of a request before and in its handler. -/
inductive RequestStepped (libraries : AuthLibraries) (server : AuthServer) (request : Request)
    (entropy : Entropy)
    : AuthServer → Request → Prop
  | lookedUp {lookup : TokenLookup} (phase : request.phase = .lookupCache lookup)
    : RequestStepped libraries server request entropy
        { server with
          cache := (lookup.cached libraries server.cache server.now request.rawToken).2 }
        (request.afterLookup lookup
          (lookup.cached libraries server.cache server.now request.rawToken).1)
  | foundKind (kind : PrincipalKind) (reads : request.phase.isAuthentication = true)
    : RequestStepped libraries server request entropy server
        { request with phase := .readContext .anyBearer kind }
  | rejected (error : ApiError) (reads : request.phase.isAuthentication = true)
    : RequestStepped libraries server request entropy server
        { request with phase := .responded (.error error) }
  | read {lookup : TokenLookup} {kind : PrincipalKind} {context : BearerTokenContext}
      (phase : request.phase = .readContext lookup kind)
      (ok
        : authenticateTokenOfKind libraries server.db server.now request.rawToken kind
          = .ok context)
    : RequestStepped libraries server request entropy server
        { request with phase := .insertCache context }
  | inserted {context : BearerTokenContext} (phase : request.phase = .insertCache context)
    : RequestStepped libraries server request entropy
        { server with
          cache :=
            server.cache.insertBearerContext libraries server.now request.rawToken context }
        (request.authenticated context)
  | handled {current : HandlerPhase} {after : AuthServer} {next : Phase}
      (phase : request.phase = .handle current)
      (taken : handlerStep libraries server request entropy current = some (after, next))
    : RequestStepped libraries server request entropy after { request with phase := next }

theorem requestStep_cases
    (taken : requestStep libraries server request entropy = some (after, stepped))
    : RequestStepped libraries server request entropy after stepped := by
  unfold requestStep at taken
  split at taken
  · cases taken
    exact .lookedUp ‹_›
  · split at taken
    · cases taken
      exact .foundKind _ (by simp only [*, Phase.isAuthentication])
    · cases taken
      exact .rejected _ (by simp only [*, Phase.isAuthentication])
  · split at taken
    · cases taken
      exact .read ‹_› ‹_›
    · cases taken
      exact .rejected _ (by simp only [*, Phase.isAuthentication])
  · cases taken
    exact .inserted ‹_›
  · obtain ⟨⟨server, next⟩, handled, same⟩ := Option.map_eq_some_iff.mp taken
    cases same
    exact .handled ‹_› handled
  · cases taken
  · cases taken

/-- A request after a miss of the cache. -/
theorem Request.afterLookup_none (request : Request) (lookup : TokenLookup)
    : ∃ phase,
        (phase = .readTokenKind ∨ phase = .readContext .adminBearer .adminUser)
        ∧ request.afterLookup lookup none = { request with phase } := by
  cases lookup with
  | anyBearer => exact ⟨_, .inl rfl, rfl⟩
  | adminBearer => exact ⟨_, .inr rfl, rfl⟩

------------------------------------------------------------
-- The phases of each handler
------------------------------------------------------------

/-- The phases that a handler goes through. -/
def Endpoint.runs : Endpoint → HandlerPhase → Bool
  | .issueToken _, phase | .issueAdminToken _, phase =>
      match phase with
      | .readCredentials | .insertToken _ | .recordIssue => true
      | _ => false
  | .revokeToken _, phase =>
      match phase with
      | .revoke | .auditRevocation | .invalidate => true
      | _ => false
  | .logoutAdmin, phase =>
      match phase with
      | .revoke | .invalidate => true
      | _ => false
  | .createAdminUser _, phase =>
      match phase with
      | .resolveRoles | .createUser _ | .readResponse => true
      | _ => false
  | .updateAdminUser _ _, phase =>
      match phase with
      | .resolveRoles | .updateUser _ | .replaceRoles _ _ | .listTokens _ | .invalidateTokens _
      | .readResponse => true
      | _ => false
  | .deleteAdminUser _, phase =>
      match phase with
      | .countActive | .listTokens _ | .invalidateTokens _ | .deleteUser => true
      | _ => false
  | .createApiClient _, phase =>
      match phase with
      | .createClient | .replaceScopes _ => true
      | _ => false
  | .updateApiClient _ _, phase =>
      match phase with
      | .updateClient | .readResponse => true
      | _ => false
  | .deleteApiClient _, phase =>
      match phase with
      | .deleteClient => true
      | _ => false
  | .rotateApiClientSecret _, phase =>
      match phase with
      | .rotateSecret | .readResponse => true
      | _ => false
  | .other _, _ => false

/-- A handler is in one of its own phases. -/
def Request.inOwnPhase (request : Request) : Bool :=
  match request.phase with
  | .handle phase => request.endpoint.runs phase
  | _ => true

theorem Phase.ofChecked_runs {endpoint : Endpoint} {next current : HandlerPhase}
    (runs : endpoint.runs next = true) {checked : Except ApiError Unit}
    (isNext : Phase.ofChecked next checked = .handle current)
    : endpoint.runs current = true := by
  cases checked with
  | error error => cases isNext
  | ok passed =>
      cases isNext
      exact runs

/-- A handler begins with one of its own phases. -/
theorem startHandler_runs {endpoint : Endpoint} {rawToken : String} {current : HandlerPhase}
    (starts : startHandler endpoint rawToken context = .handle current)
    : endpoint.runs current = true := by
  cases endpoint with
  | issueToken _ | issueAdminToken _ | other _ => cases starts
  | logoutAdmin =>
      cases starts
      rfl
  | createAdminUser payload | updateAdminUser _ payload =>
      refine Phase.ofChecked_runs ?_ starts
      unfold resolveRoleIds
      split <;> rfl
  | revokeToken _ | deleteAdminUser _ | createApiClient _ | updateApiClient _ _
  | deleteApiClient _ | rotateApiClientSecret _ => exact Phase.ofChecked_runs rfl starts

/-- A handler goes on to one of its own phases. -/
theorem HandlerStepped.runs {current next : HandlerPhase}
    (steps : HandlerStepped libraries server request current after (.handle next))
    (runs : request.endpoint.runs current = true)
    : request.endpoint.runs next = true := by
  cases steps with
  | credentials owner | inserted | audited | replacedRoles | listed =>
      revert runs
      cases request.endpoint <;> simp [Endpoint.runs]
  | revokedToken endpoint => rw [endpoint]; rfl
  | loggedOut endpoint => rw [endpoint]; rfl
  | resolvedForCreation roleIds endpoint => rw [endpoint]; rfl
  | resolvedForUpdate roleIds endpoint => rw [endpoint]; rfl
  | createdUser endpoint => rw [endpoint]; rfl
  | updatedUser endpoint => rw [endpoint]; rfl
  | counted endpoint => rw [endpoint]; rfl
  | endedTokensForUpdate tokens endpoint => rw [endpoint]; rfl
  | endedTokensForDeletion tokens endpoint => rw [endpoint]; rfl
  | createdClient endpoint => rw [endpoint]; rfl
  | updatedClient endpoint => rw [endpoint]; rfl
  | rotatedSecret endpoint => rw [endpoint]; rfl

theorem Request.inOwnPhase_of_notHandling {request : Request}
    (notHandling : ∀ phase, request.phase ≠ .handle phase)
    : request.inOwnPhase = true := by
  unfold inOwnPhase
  split
  · exact absurd ‹_› (notHandling _)
  · rfl

theorem Request.authenticated_inOwnPhase (request : Request) (context : BearerTokenContext)
    : (request.authenticated context).inOwnPhase = true := by
  rcases request.authenticated_cases context with same | ⟨phase, finished, same⟩
  · rw [same]
    unfold inOwnPhase
    split
    · exact startHandler_runs ‹_›
    · rfl
  · rw [same]
    refine inOwnPhase_of_notHandling fun current isPhase => ?_
    obtain rfl : phase = .handle current := isPhase
    cases finished

theorem startRequestOf_inOwnPhase (endpoint : Endpoint) (headers : AuthHeaders)
    : (startRequestOf endpoint headers).inOwnPhase = true := by
  unfold startRequestOf Request.inOwnPhase
  split
  · rename_i isPhase
    split at isPhase
    · dsimp only at isPhase
      exact Phase.ofChecked_runs rfl isPhase
    · dsimp only at isPhase
      exact Phase.ofChecked_runs rfl isPhase
    · cases isPhase
    · split at isPhase <;> cases isPhase
  · rfl

theorem RequestStepped.inOwnPhase
    (steps : RequestStepped libraries server request entropy after stepped)
    (own : request.inOwnPhase = true)
    : stepped.inOwnPhase = true := by
  cases steps with
  | @lookedUp lookup phase =>
      cases (lookup.cached libraries server.cache server.now request.rawToken).1 with
      | none => cases lookup <;> rfl
      | some context => exact request.authenticated_inOwnPhase context
  | foundKind | rejected | read => rfl
  | inserted pending => exact request.authenticated_inOwnPhase _
  | @handled current _ next phase handles =>
      have runs : request.endpoint.runs current = true := by
        simpa only [Request.inOwnPhase, phase] using own
      cases next with
      | handle next => exact (handlerStep_cases handles).runs runs
      | _ => rfl

end AlonSentinel.Api
