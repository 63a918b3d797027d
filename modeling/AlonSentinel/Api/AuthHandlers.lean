import AlonSentinel.Api.Extractors

/-! The requests that issue, revoke or rest on tokens, and those that manage admin users and API
clients. A request is a sequence of database statements and cache operations with requests of
other clients in between, so each of them is one step.
-/

namespace AlonSentinel.Api

open Auth
open Domain
open KeyedTable
open UnicodeText

------------------------------------------------------------
-- Payloads
------------------------------------------------------------

structure IssueTokenRequest where
  clientId : String
  clientSecret : String

structure IssueAdminTokenRequest where
  email : String
  password : String

structure RevokeTokenRequest where
  token : String
  revokedReason : Option String

structure CreateAdminUserRequest where
  email : String
  displayName : String
  password : String
  isActive : Option Bool
  roleKeys : List String

structure UpdateAdminUserRequest where
  email : String
  displayName : String
  password : Option String
  isActive : Bool
  roleKeys : List String

structure CreateApiClientRequest where
  name : String
  description : Option String
  clientType : String
  scopes : List String

structure UpdateApiClientRequest where
  name : String
  description : Option String
  isActive : Bool

/-- The handlers that read or write what authentication rests on, and all others. -/
inductive Endpoint where
  | issueToken (payload : IssueTokenRequest)
  | issueAdminToken (payload : IssueAdminTokenRequest)
  | revokeToken (payload : RevokeTokenRequest)
  | logoutAdmin
  | createAdminUser (payload : CreateAdminUserRequest)
  | updateAdminUser (userId : Int) (payload : UpdateAdminUserRequest)
  | deleteAdminUser (userId : Int)
  | createApiClient (payload : CreateApiClientRequest)
  | updateApiClient (clientId : Int) (payload : UpdateApiClientRequest)
  | deleteApiClient (clientId : Int)
  | rotateApiClientSecret (clientId : Int)
  | other (extractor : Extractor)

/-- The extractor of a handler; tokens are issued without one. -/
def Endpoint.extractor : Endpoint → Option Extractor
  | .issueToken _ | .issueAdminToken _ => none
  | .revokeToken _ => some .authenticatedApiClientRequest
  | .other extractor => some extractor
  | _ => some .authenticatedAdminRequest

------------------------------------------------------------
-- Requests in progress
------------------------------------------------------------

/-- The statement or cache operation that a handler executes next. -/
inductive HandlerPhase where
  | readCredentials
  | insertToken (owner : Principal)
  | recordIssue
  | revoke
  | auditRevocation
  | invalidate
  | resolveRoles
  | createUser (roleIds : List Int)
  | updateUser (roleIds : List Int)
  | replaceRoles (userId : Int) (roleIds : List Int)
  | countActive
  | listTokens (userId : Int)
  | invalidateTokens (tokens : List AdminAccessToken)
  | deleteUser
  | createClient
  | replaceScopes (clientId : Int)
  | updateClient
  | rotateSecret
  | deleteClient
  | readResponse

/-- How far a request is: at one of the three steps of its authentication, in its handler,
answered, or dropped with its connection.
-/
inductive Phase where
  | lookupCache (lookup : TokenLookup)
  | readTokenKind
  | readContext (lookup : TokenLookup) (kind : PrincipalKind)
  | insertCache (context : BearerTokenContext)
  | handle (phase : HandlerPhase)
  | responded (response : Except ApiError Unit)
  | aborted

/-- A request: the token it carries, and what the extractor passed to the handler. -/
structure Request where
  endpoint : Endpoint
  rawToken : String
  context : Option BearerTokenContext
  phase : Phase

/-- The record of an issued token. -/
structure IssuedToken where
  rawToken : String
  owner : Principal
  tokenId : Int
  expiresAt : Timestamp

/-- What all requests share. The record of issued tokens is kept for the statements only. -/
structure AuthServer where
  db : AuthDatabase
  cache : AuthTokenCache
  now : Timestamp
  issued : List IssuedToken

/-- The random values that a step may draw. -/
structure Entropy where
  tokenBytes : TokenBytes
  secretBytes : TokenBytes
  salt : String

------------------------------------------------------------
-- The checks before the first statement
------------------------------------------------------------

/-- A handler goes on with a phase, or answers what a check rejected. -/
def Phase.ofChecked (next : HandlerPhase) : Except ApiError Unit → Phase
  | .ok () => .handle next
  | .error error => .responded (.error error)

def requirePermission (permissions : PermissionSet) (required : PermissionKey)
    : Except ApiError Unit :=
  if required ∈ permissions then .ok ()
  else .error (.forbidden s!"missing required permission: {required.asStr}")

def validateAdminUserPayload (email displayName : String) (password : Option String)
    : Except ApiError Unit :=
  if trim email = "" then .error (.badRequest "email is required")
  else if trim displayName = "" then .error (.badRequest "display_name is required")
  else if password.any fun value => trim value = "" then
    .error (.badRequest "password can not be empty")
  else .ok ()

def parseApiClientType : String → Except ApiError ApiClientType
  | "internal_service" => .ok .internalService
  | "installation_client" => .ok .installationClient
  | _ => .error (.badRequest "client_type must be internal_service or installation_client")

def validateScopes (scopes : List String) : Except ApiError Unit :=
  if scopes.all fun scope => scope = "sites:read" || scope = "sites:write" then .ok ()
  else .error (.badRequest "scopes must be one of: sites:read, sites:write")

/-- No statement resolves an empty list of roles. -/
def resolveRoleIds (roleKeys : List String) (next : List Int → HandlerPhase) : HandlerPhase :=
  if roleKeys.isEmpty then next [] else .resolveRoles

/-- The id of an admin user who makes a request. -/
def adminUserId? : BearerTokenContext → Option Int
  | .adminUser context => some context.user.id
  | .apiClient _ => none

/-- What an authenticated handler does before its first statement. -/
def startHandler (endpoint : Endpoint) (rawToken : String) (context : BearerTokenContext) : Phase :=
  match endpoint with
  | .issueToken _ | .issueAdminToken _ => .aborted
  | .other _ => .responded (.ok ())
  | .revokeToken payload =>
      .ofChecked .revoke do
        if trim payload.token = "" then throw (.badRequest "token is required")
        if payload.token ≠ rawToken then
          throw (.forbidden "can only revoke the current access token")
  | .logoutAdmin => .handle .revoke
  | .createAdminUser payload =>
      .ofChecked (resolveRoleIds payload.roleKeys .createUser) do
        requirePermission context.permissions .usersWrite
        validateAdminUserPayload payload.email payload.displayName (some payload.password)
  | .updateAdminUser _ payload =>
      .ofChecked (resolveRoleIds payload.roleKeys .updateUser) do
        requirePermission context.permissions .usersWrite
        validateAdminUserPayload payload.email payload.displayName payload.password
  | .deleteAdminUser userId =>
      .ofChecked .countActive do
        requirePermission context.permissions .usersWrite
        if adminUserId? context = some userId then
          throw (.badRequest "cannot delete your own account")
  | .createApiClient payload =>
      .ofChecked .createClient do
        requirePermission context.permissions .apiClientsWrite
        if trim payload.name = "" then throw (.badRequest "name is required")
        let _ ← parseApiClientType payload.clientType
        validateScopes payload.scopes
  | .updateApiClient _ payload =>
      .ofChecked .updateClient do
        requirePermission context.permissions .apiClientsWrite
        if trim payload.name = "" then throw (.badRequest "name is required")
  | .deleteApiClient _ =>
      .ofChecked .deleteClient (requirePermission context.permissions .apiClientsWrite)
  | .rotateApiClientSecret _ =>
      .ofChecked .rotateSecret (requirePermission context.permissions .apiClientsWrite)

/-- The extractor passes an authenticated context on to the handler, or rejects it. -/
def Request.authenticated (request : Request) (context : BearerTokenContext) : Request :=
  match request.endpoint.extractor with
  | none => { request with phase := .aborted }
  | some extractor =>
      match extractor.accept context with
      | .ok context =>
          { request with
            context := some context
            phase := startHandler request.endpoint request.rawToken context }
      | .error error => { request with phase := .responded (.error error) }

/-- What a request does after the cache has answered. -/
def Request.afterLookup (request : Request) (lookup : TokenLookup)
    : Option BearerTokenContext → Request
  | some context => request.authenticated context
  | none =>
      match lookup with
      | .anyBearer => { request with phase := .readTokenKind }
      | .adminBearer => { request with phase := .readContext .adminBearer .adminUser }

/-- A request as it arrives. -/
def startRequestOf (endpoint : Endpoint) (headers : AuthHeaders) : Request :=
  let arrived (rawToken : String) (phase : Phase) : Request :=
    { endpoint, rawToken, context := none, phase }
  match endpoint, endpoint.extractor with
  | .issueToken payload, _ =>
      arrived ""
        (.ofChecked .readCredentials do
          if trim payload.clientId = "" || payload.clientSecret = "" then
            throw (.badRequest "client_id and client_secret are required"))
  | .issueAdminToken payload, _ =>
      arrived ""
        (.ofChecked .readCredentials do
          if trim payload.email = "" || payload.password = "" then
            throw (.badRequest "email and password are required"))
  | _, none => arrived "" .aborted
  | _, some extractor =>
      match extractor.credential headers with
      | .ok (lookup, rawToken) => arrived rawToken (.lookupCache lookup)
      | .error error => arrived "" (.responded (.error error))

------------------------------------------------------------
-- The steps of a handler
------------------------------------------------------------

section Steps

variable (libraries : AuthLibraries) (server : AuthServer)

/-- Answers from what a statement returned: the next phase, or that there is no such row. -/
def orNotFound {Row : Type} (result : Option Row × AuthDatabase) (message : String)
    (next : Row → Phase)
    : AuthServer × Phase :=
  match result with
  | (some row, db) => ({ server with db }, next row)
  | (none, _) => (server, .responded (.error (.notFound message)))

def stepReadCredentials (endpoint : Endpoint) : Option Phase :=
  match endpoint with
  | .issueToken payload =>
      match authenticateClientCredentials libraries server.db payload.clientId
          payload.clientSecret with
      | .ok (client, _) => some (.handle (.insertToken ⟨.apiClient, client.id⟩))
      | .error message => some (.responded (.error (.unauthorized message)))
  | .issueAdminToken payload =>
      match authenticateAdminCredentials libraries server.db (trim payload.email)
          payload.password with
      | .ok authenticated => some (.handle (.insertToken ⟨.adminUser, authenticated.user.id⟩))
      | .error message => some (.responded (.error (.unauthorized message)))
  | _ => none

/-- Stores a token that was never issued before. -/
def stepInsertToken (owner : Principal) (bytes : TokenBytes) : Option (AuthServer × Phase) :=
  let rawToken := generateRawToken bytes
  let expiresAt := server.now + accessTokenTtl
  let new : NewToken :=
    { ownerId := owner.id
      tokenHash := libraries.hashToken rawToken
      tokenPrefix := tokenPrefix rawToken
      expiresAt }
  let isNew := libraries.usesToken rawToken && server.issued.all (·.rawToken ≠ rawToken)
  match createToken server.db owner.kind new with
  | .error _ => none
  | .ok db =>
      if isNew then
        let tokenId := (server.db.tokens owner.kind).nextId
        some
          ({ server with
              db
              issued := server.issued ++ [{ rawToken, owner, tokenId, expiresAt }] },
            .handle .recordIssue)
      else none

def stepRevoke (endpoint : Endpoint) (context : BearerTokenContext)
    : Option (AuthServer × Phase) :=
  match endpoint, context with
  | .revokeToken payload, .apiClient context =>
      let db := revokeAccessToken server.db server.now context.token.id payload.revokedReason
      some ({ server with db }, .handle .auditRevocation)
  | .logoutAdmin, .adminUser context =>
      let db := revokeAdminAccessToken server.db server.now context.token.id (some "admin_logout")
      some ({ server with db }, .handle .invalidate)
  | _, _ => none

def stepInvalidate (endpoint : Endpoint) (rawToken : String) (context : BearerTokenContext)
    : Option (AuthServer × Phase) :=
  match endpoint with
  | .revokeToken _ =>
      let cache := server.cache.invalidateRawToken libraries rawToken
      some ({ server with cache }, .responded (.ok ()))
  | .logoutAdmin =>
      let cache := server.cache.invalidateHashedToken context.token.tokenPrefix
        context.token.tokenHash
      some ({ server with cache }, .responded (.ok ()))
  | _ => none

def stepResolveRoles (endpoint : Endpoint) : Option Phase :=
  let resolve (roleKeys : List String) (next : List Int → HandlerPhase) : Phase :=
    let roles := listRolesByKeys server.db roleKeys
    if roles.length ≠ roleKeys.length then
      .responded (.error (.badRequest "one or more role_keys are invalid"))
    else .handle (next (roles.map (·.id)))
  match endpoint with
  | .createAdminUser payload => some (resolve payload.roleKeys .createUser)
  | .updateAdminUser _ payload => some (resolve payload.roleKeys .updateUser)
  | _ => none

def stepCreateUser (endpoint : Endpoint) (roleIds : List Int) (salt : String)
    : Option (AuthServer × Phase) :=
  match endpoint with
  | .createAdminUser payload =>
      let new : NewAdminUser :=
        { email := trim payload.email
          displayName := trim payload.displayName
          passwordHash := libraries.hashPassword salt payload.password }
      match createAdminUserWithRoles server.db new payload.isActive roleIds with
      | .ok db => some ({ server with db }, .handle .readResponse)
      | .error _ => none
  | _ => none

/-- What an update of a user stores; a blank password stands for none. -/
def UpdateAdminUserRequest.params (payload : UpdateAdminUserRequest) (salt : String)
    : AdminUserUpdateParams where
  email := trim payload.email
  displayName := trim payload.displayName
  passwordHash :=
    ((payload.password.map trim).filter (· ≠ "")).map (libraries.hashPassword salt)
  isActive := payload.isActive

def stepUpdateUser (endpoint : Endpoint) (roleIds : List Int) (salt : String)
    : Option (AuthServer × Phase) :=
  match endpoint with
  | .updateAdminUser userId payload =>
      match updateAdminUser server.db userId (payload.params libraries salt) with
      | .ok result =>
          some (orNotFound server result "admin user not found" fun user =>
            .handle (.replaceRoles user.id roleIds))
      | .error _ => none
  | _ => none

/-- Ends the cached contexts of some tokens, as `invalidate_tokens_for_user` does. -/
def invalidateTokens (cache : AuthTokenCache) (tokens : List AdminAccessToken) : AuthTokenCache :=
  tokens.foldl (fun cache token => cache.invalidateHashedToken token.tokenPrefix token.tokenHash)
    cache

def stepInvalidateTokens (endpoint : Endpoint) (tokens : List AdminAccessToken)
    : Option (AuthServer × Phase) :=
  let cache := invalidateTokens server.cache tokens
  match endpoint with
  | .updateAdminUser _ _ => some ({ server with cache }, .handle .readResponse)
  | .deleteAdminUser _ => some ({ server with cache }, .handle .deleteUser)
  | _ => none

def stepDeleteUser (endpoint : Endpoint) : Option (AuthServer × Phase) :=
  match endpoint with
  | .deleteAdminUser userId =>
      some (orNotFound server (deleteAdminUser server.db userId) "admin user not found" fun _ =>
        .responded (.ok ()))
  | _ => none

def stepCreateClient (endpoint : Endpoint) (context : BearerTokenContext) (entropy : Entropy)
    : Option (AuthServer × Phase) :=
  match endpoint with
  | .createApiClient payload =>
      let rawSecret := generateRawToken entropy.secretBytes
      match parseApiClientType payload.clientType with
      | .error _ => none
      | .ok clientType =>
          let new : NewApiClient :=
            { name := trim payload.name
              description := payload.description
              clientType
              clientId :=
                "ac_" ++ String.ofList ((generateRawToken entropy.tokenBytes).toList.take 16)
              clientSecretHash := libraries.hashPassword entropy.salt rawSecret
              secretPrefix := tokenPrefix rawSecret
              createdByUserId := (adminUserId? context).map fun id => s!"{id}" }
          match createApiClient server.db new with
          | .ok (client, db) => some ({ server with db }, .handle (.replaceScopes client.id))
          | .error _ => none
  | _ => none

def stepReplaceScopes (endpoint : Endpoint) (clientId : Int) : Option (AuthServer × Phase) :=
  match endpoint with
  | .createApiClient payload =>
      match replaceApiClientScopes server.db clientId payload.scopes with
      | .ok db => some ({ server with db }, .responded (.ok ()))
      | .error _ => none
  | _ => none

def stepUpdateClient (endpoint : Endpoint) : Option (AuthServer × Phase) :=
  match endpoint with
  | .updateApiClient clientId payload =>
      let result := updateApiClient server.db clientId (trim payload.name) payload.description
        payload.isActive
      some (orNotFound server result "api client not found" fun _ => .handle .readResponse)
  | _ => none

def stepRotateSecret (endpoint : Endpoint) (entropy : Entropy) : Option (AuthServer × Phase) :=
  match endpoint with
  | .rotateApiClientSecret clientId =>
      let rawSecret := generateRawToken entropy.secretBytes
      let result := Domain.rotateApiClientSecret server.db clientId
        (libraries.hashPassword entropy.salt rawSecret) (tokenPrefix rawSecret)
      some (orNotFound server result "api client not found" fun _ => .handle .readResponse)
  | _ => none

def stepDeleteClient (endpoint : Endpoint) : Option (AuthServer × Phase) :=
  match endpoint with
  | .deleteApiClient clientId =>
      let (deleted, db) := deleteApiClient server.db clientId
      if deleted then some ({ server with db }, .responded (.ok ()))
      else some (server, .responded (.error (.notFound "api client not found")))
  | _ => none

/-- One step of a handler; a statement that violates a constraint is not one. -/
def handlerStep (request : Request) (entropy : Entropy)
    : HandlerPhase → Option (AuthServer × Phase)
  | .readCredentials =>
      (stepReadCredentials libraries server request.endpoint).map (server, ·)
  | .insertToken owner => stepInsertToken libraries server owner entropy.tokenBytes
  | .recordIssue => some (server, .responded (.ok ()))
  | .revoke => request.context.bind (stepRevoke server request.endpoint)
  | .auditRevocation => some (server, .handle .invalidate)
  | .invalidate =>
      request.context.bind (stepInvalidate libraries server request.endpoint request.rawToken)
  | .resolveRoles => (stepResolveRoles server request.endpoint).map (server, ·)
  | .createUser roleIds => stepCreateUser libraries server request.endpoint roleIds entropy.salt
  | .updateUser roleIds => stepUpdateUser libraries server request.endpoint roleIds entropy.salt
  | .replaceRoles userId roleIds =>
      match replaceRolesForAdminUser server.db userId roleIds with
      | .ok db => some ({ server with db }, .handle (.listTokens userId))
      | .error _ => none
  | .countActive =>
      match request.endpoint with
      | .deleteAdminUser userId =>
          if countActiveAdminUsers server.db ≤ 1 then
            some (server,
              .responded (.error (.badRequest "cannot delete the last active admin user")))
          else some (server, .handle (.listTokens userId))
      | _ => none
  | .listTokens userId =>
      some (server,
        .handle (.invalidateTokens (listActiveTokensForAdminUser server.db server.now userId)))
  | .invalidateTokens tokens => stepInvalidateTokens server request.endpoint tokens
  | .deleteUser => stepDeleteUser server request.endpoint
  | .createClient =>
      request.context.bind fun context =>
        stepCreateClient libraries server request.endpoint context entropy
  | .replaceScopes clientId => stepReplaceScopes server request.endpoint clientId
  | .updateClient => stepUpdateClient server request.endpoint
  | .rotateSecret => stepRotateSecret libraries server request.endpoint entropy
  | .deleteClient => stepDeleteClient server request.endpoint
  | .readResponse => some (server, .responded (.ok ()))

/-- One step of a request. -/
def requestStep (request : Request) (entropy : Entropy) : Option (AuthServer × Request) :=
  match request.phase with
  | .lookupCache lookup =>
      let answer := lookup.cached libraries server.cache server.now request.rawToken
      some ({ server with cache := answer.2 }, request.afterLookup lookup answer.1)
  | .readTokenKind =>
      match lookupBearerTokenKind server.db (libraries.hashToken request.rawToken) with
      | some kind => some (server, { request with phase := .readContext .anyBearer kind })
      | none =>
          some (server,
            { request with
              phase := .responded (.error (.unauthorized "invalid bearer token")) })
  | .readContext lookup kind =>
      match authenticateTokenOfKind libraries server.db server.now request.rawToken kind with
      | .ok context => some (server, { request with phase := .insertCache context })
      | .error message =>
          some (server, { request with phase := .responded (.error (lookup.rejection message)) })
  | .insertCache context =>
      let cache := server.cache.insertBearerContext libraries server.now request.rawToken context
      some ({ server with cache }, request.authenticated context)
  | .handle phase =>
      (handlerStep libraries server request entropy phase).map fun (server, phase) =>
        (server, { request with phase })
  | .responded _ | .aborted => none

end Steps

/-- Whether a handler may begin with a phase. -/
def HandlerPhase.isFirst : HandlerPhase → Bool
  | .readCredentials | .revoke | .resolveRoles | .createUser _ | .updateUser _ | .countActive
  | .createClient | .updateClient | .rotateSecret | .deleteClient => true
  | _ => false

/-- Whether a request is still being authenticated. -/
def Phase.isAuthentication : Phase → Bool
  | .lookupCache _ | .readTokenKind | .readContext _ _ | .insertCache _ => true
  | _ => false

/-- Whether the next step of a request is a database statement. -/
def Phase.isStatement : Phase → Bool
  | .readTokenKind | .readContext _ _ => true
  | .handle (.invalidate) | .handle (.invalidateTokens _) => false
  | .handle _ => true
  | _ => false

/-- Whether a request is over. -/
def Phase.isOver : Phase → Bool
  | .responded _ | .aborted => true
  | _ => false

/-- The connection of a request is closed before it is answered. -/
def Request.abort (request : Request) : Request :=
  if request.phase.isOver then request else { request with phase := .aborted }

/-- How a request answers when a statement of it fails. -/
def Request.databaseError (request : Request) (message : String) : ApiError :=
  match request.endpoint, request.context with
  | .issueToken _, _ | .issueAdminToken _, _ => .unauthorized message
  | .revokeToken _, some _ => .badRequest message
  | _, _ => .internal internalServerErrorMessage

end AlonSentinel.Api
