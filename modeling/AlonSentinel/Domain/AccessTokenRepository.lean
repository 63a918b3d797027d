import AlonSentinel.Domain.AdminUserRepository

/-! The statements on API clients, and on the access tokens of admin users and API clients. -/

namespace AlonSentinel.Domain

open KeyedTable

------------------------------------------------------------
-- API clients
------------------------------------------------------------

structure NewApiClient where
  name : String
  description : Option String
  clientType : ApiClientType
  clientId : String
  clientSecretHash : String
  secretPrefix : String
  createdByUserId : Option String

def NewApiClient.row (new : NewApiClient) (id : Int) : ApiClient where
  id := id
  name := new.name
  description := new.description
  clientType := new.clientType
  clientId := new.clientId
  clientSecretHash := new.clientSecretHash
  secretPrefix := new.secretPrefix
  isActive := true
  createdByUserId := new.createdByUserId

def createApiClient (db : AuthDatabase) (new : NewApiClient)
    : Except DatabaseError (ApiClient × AuthDatabase) :=
  if db.apiClients.rows.any (·.clientId = new.clientId) then
    .error (.uniqueViolation "uq_api_clients_client_id")
  else
    .ok (new.row db.apiClients.nextId, { db with apiClients := db.apiClients.insert new.row })

/-- Sets columns of an API client and returns the new row. -/
def setApiClient (db : AuthDatabase) (id : Int) (set : ApiClient → ApiClient)
    (keeps : ∀ client, (set client).id = client.id)
    : Option ApiClient × AuthDatabase :=
  ((db.apiClients.find? id).map set,
    { db with apiClients := db.apiClients.update (·.id = id) set fun client _ => keeps client })

def updateApiClient (db : AuthDatabase) (id : Int) (name : String) (description : Option String)
    (isActive : Bool)
    : Option ApiClient × AuthDatabase :=
  setApiClient db id (fun client => { client with name, description, isActive }) fun _ => rfl

def rotateApiClientSecret (db : AuthDatabase) (id : Int) (newSecretHash newSecretPrefix : String)
    : Option ApiClient × AuthDatabase :=
  setApiClient db id
    (fun client =>
      { client with clientSecretHash := newSecretHash, secretPrefix := newSecretPrefix })
    fun _ => rfl

/-- Deletes an API client, and with it the scopes and tokens of the client. -/
def deleteApiClient (db : AuthDatabase) (id : Int) : Bool × AuthDatabase :=
  ((db.apiClients.find? id).isSome,
    { db with
      apiClients := db.apiClients.delete (·.id = id)
      apiClientScopes := db.apiClientScopes.filter (·.apiClientId ≠ id)
      tokens :=
        Function.update db.tokens .apiClient
          ((db.tokens .apiClient).delete (·.ownerId = id)) })

def getApiClientByClientId (db : AuthDatabase) (clientId : String) : Option ApiClient :=
  db.apiClients.rows.find? (·.clientId = clientId)

def listApiClientScopes (db : AuthDatabase) (apiClientId : Int) : List String :=
  (db.apiClientScopes.filter (·.apiClientId = apiClientId)).map (·.scope)

/-- Replaces the scopes of a client in one transaction; a scope may not occur twice. -/
def replaceApiClientScopes (db : AuthDatabase) (apiClientId : Int) (scopes : List String)
    : Except DatabaseError AuthDatabase :=
  if !scopes.isEmpty && (db.apiClients.find? apiClientId).isNone then .error .foreignKeyViolation
  else if scopes.Nodup then
    .ok
      { db with
        apiClientScopes :=
          db.apiClientScopes.filter (·.apiClientId ≠ apiClientId)
            ++ scopes.map fun scope => ⟨apiClientId, scope⟩ }
  else .error (.uniqueViolation "uq_api_client_scopes_client_scope")

------------------------------------------------------------
-- Access tokens
------------------------------------------------------------

structure NewToken where
  ownerId : Int
  tokenHash : String
  tokenPrefix : String
  expiresAt : Timestamp

def NewToken.row (new : NewToken) (id : Int) : StoredToken where
  id := id
  ownerId := new.ownerId
  tokenHash := new.tokenHash
  tokenPrefix := new.tokenPrefix
  expiresAt := new.expiresAt
  revokedAt := none
  revokedReason := none

/-- Whether the owner of a token exists. -/
def AuthDatabase.ownerExists (db : AuthDatabase) (owner : Principal) : Bool :=
  match owner.kind with
  | .adminUser => (db.adminUsers.find? owner.id).isSome
  | .apiClient => (db.apiClients.find? owner.id).isSome

/-- Stores a token of one kind. -/
def createToken (db : AuthDatabase) (kind : PrincipalKind) (new : NewToken)
    : Except DatabaseError AuthDatabase :=
  if (db.tokens kind).rows.any (·.tokenHash = new.tokenHash) then
    .error
      (.uniqueViolation
        (match kind with
        | .adminUser => "uq_admin_access_tokens_token_hash"
        | .apiClient => "uq_access_tokens_token_hash"))
  else if db.ownerExists ⟨kind, new.ownerId⟩ then
    .ok (db.setTokens kind ((db.tokens kind).insert new.row))
  else .error .foreignKeyViolation

def createAdminAccessToken (db : AuthDatabase) : NewToken → Except DatabaseError AuthDatabase :=
  createToken db .adminUser

def createAccessToken (db : AuthDatabase) : NewToken → Except DatabaseError AuthDatabase :=
  createToken db .apiClient

/-- Marks a token of one kind as revoked, also if it was revoked before. -/
def revokeToken (db : AuthDatabase) (kind : PrincipalKind) (now : Timestamp) (id : Int)
    (revokedReason : Option String)
    : AuthDatabase :=
  db.setTokens kind
    ((db.tokens kind).update (·.id = id) fun token =>
      { token with revokedAt := some now, revokedReason })

def revokeAdminAccessToken (db : AuthDatabase)
    : Timestamp → Int → Option String → AuthDatabase :=
  revokeToken db .adminUser

def revokeAccessToken (db : AuthDatabase) : Timestamp → Int → Option String → AuthDatabase :=
  revokeToken db .apiClient

/-- The token of one kind that has a hash. -/
def getTokenByTokenHash (db : AuthDatabase) (kind : PrincipalKind) (tokenHash : String)
    : Option StoredToken :=
  (db.tokens kind).rows.find? (·.tokenHash = tokenHash)

/-- A token with its owner and the roles and permissions of the owner. -/
def getAdminAccessTokenAuthContextByTokenHash (db : AuthDatabase) (tokenHash : String)
    : Option (AdminAccessToken × AdminUser × List String × PermissionSet) := do
  let token ← getTokenByTokenHash db .adminUser tokenHash
  let user ← db.adminUsers.find? token.ownerId
  return (token, user, listRoleKeysForAdminUser db user.id,
    listPermissionKeysForAdminUser db user.id)

/-- A token with its owner and the scopes of the owner. -/
def getAccessTokenAuthContextByTokenHash (db : AuthDatabase) (tokenHash : String)
    : Option (AccessToken × ApiClient × List String) := do
  let token ← getTokenByTokenHash db .apiClient tokenHash
  let client ← db.apiClients.find? token.ownerId
  return (token, client, listApiClientScopes db client.id)

def listActiveTokensForAdminUser (db : AuthDatabase) (now : Timestamp) (adminUserId : Int)
    : List AdminAccessToken :=
  (db.tokens .adminUser).rows.filter fun token =>
    token.ownerId = adminUserId && token.revokedAt.isNone && now < token.expiresAt

------------------------------------------------------------
-- What the statements do
------------------------------------------------------------

variable {db after : AuthDatabase} {kind : PrincipalKind}

theorem createApiClient_ok {new : NewApiClient} {client : ApiClient}
    (ok : createApiClient db new = .ok (client, after))
    : client = new.row db.apiClients.nextId
      ∧ after = { db with apiClients := db.apiClients.insert new.row } := by
  unfold createApiClient at ok
  split at ok
  · cases ok
  · cases ok
    exact ⟨rfl, rfl⟩

/-- An update that returns a row has set that row. -/
theorem setApiClient_some {id : Int} {set : ApiClient → ApiClient}
    {keeps : ∀ client, (set client).id = client.id} {client : ApiClient}
    (isSet : setApiClient db id set keeps = (some client, after))
    : (∃ stored, db.apiClients.find? id = some stored ∧ client = set stored)
      ∧ after
        = { db with
            apiClients := db.apiClients.update (·.id = id) set fun client _ => keeps client } := by
  obtain ⟨found, rfl⟩ := Prod.mk.inj isSet
  obtain ⟨stored, isStored, rfl⟩ := Option.map_eq_some_iff.mp found
  exact ⟨⟨stored, isStored, rfl⟩, rfl⟩

/-- A deletion that reports a row has deleted that row, with what refers to it. -/
theorem deleteApiClient_true {id : Int} (deleted : deleteApiClient db id = (true, after))
    : (∃ client, db.apiClients.find? id = some client)
      ∧ after
        = { db with
            apiClients := db.apiClients.delete (·.id = id)
            apiClientScopes := db.apiClientScopes.filter (·.apiClientId ≠ id)
            tokens :=
              Function.update db.tokens .apiClient
                ((db.tokens .apiClient).delete (·.ownerId = id)) } := by
  obtain ⟨found, rfl⟩ := Prod.mk.inj deleted
  exact ⟨Option.isSome_iff_exists.mp found, rfl⟩

theorem replaceApiClientScopes_ok {apiClientId : Int} {scopes : List String}
    (ok : replaceApiClientScopes db apiClientId scopes = .ok after)
    : ∃ apiClientScopes, after = { db with apiClientScopes } := by
  unfold replaceApiClientScopes at ok
  split at ok
  · cases ok
  · split at ok
    · cases ok
      exact ⟨_, rfl⟩
    · cases ok

/-- Storing a token adds one row to one table. -/
theorem createToken_ok {new : NewToken} (ok : createToken db kind new = .ok after)
    : ∃ table,
        after = db.setTokens kind table
        ∧ table.rows = (db.tokens kind).rows ++ [new.row (db.tokens kind).nextId]
        ∧ table.nextId = (db.tokens kind).nextId + 1 := by
  unfold createToken at ok
  split at ok
  · cases ok
  · split at ok
    · cases ok
      exact ⟨_, rfl, rfl, rfl⟩
    · cases ok

end AlonSentinel.Domain
