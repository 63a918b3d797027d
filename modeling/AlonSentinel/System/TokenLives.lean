import AlonSentinel.System.Authorization

/-! The life of a token, from the login that it was issued for to the request that ends it. Nobody
is authenticated without somebody having presented the credentials of that principal before.
-/

namespace AlonSentinel.System

open Api
open Auth
open Domain
open KeyedTable
open TransitionSystem
open UnicodeText

variable {libraries : AuthLibraries} {server after : AuthServer} {request stepped : Request}
  {entropy : Entropy} {state before next : AuthState} {past history : List AuthState}
  {action : AuthAction} {context : BearerTokenContext} {kind : PrincipalKind} {row : StoredToken}
  {id : Nat}

------------------------------------------------------------
-- Credentials
------------------------------------------------------------

/-- A login presents the credentials of an active principal. -/
inductive Presents (libraries : AuthLibraries) (db : AuthDatabase) : Endpoint → Principal → Prop
  | client {payload : IssueTokenRequest} {client : ApiClient} (stored : client ∈ db.apiClients.rows)
      (clientId : client.clientId = payload.clientId) (active : client.isActive = true)
      (secret
        : libraries.verifyPasswordHash client.clientSecretHash payload.clientSecret = true)
    : Presents libraries db (.issueToken payload) ⟨.apiClient, client.id⟩
  | user {payload : IssueAdminTokenRequest} {user : AdminUser}
      (stored : user ∈ db.adminUsers.rows)
      (email : libraries.lower user.email = libraries.lower (trim (trim payload.email)))
      (active : user.isActive = true)
      (password : libraries.verifyPasswordHash user.passwordHash payload.password = true)
    : Presents libraries db (.issueAdminToken payload) ⟨.adminUser, user.id⟩

/-- A request is about to issue a token. -/
def AboutToIssue (id : Nat) (state : AuthState) (login : Endpoint × Principal) : Prop :=
  ∃ request,
    state.requests[id]? = some request
    ∧ request.endpoint = login.1
    ∧ request.phase = .handle (.insertToken login.2)

/-- A request presents the credentials of a principal in its step, and is about to issue a token.
-/
structure PresentsIn (libraries : AuthLibraries) (id : Nat) (before after : AuthState)
    (login : Endpoint × Principal)
    : Prop where
  reads
    : ∃ request,
        before.requests[id]? = some request
        ∧ request.endpoint = login.1
        ∧ request.phase = .handle .readCredentials
  presents : Presents libraries before.server.db login.1 login.2
  own : OwnStep libraries id before after
  issuing : AboutToIssue id after login

/-- A row as it was stored first. -/
def asIssued (row : StoredToken) : StoredToken :=
  { row with revokedAt := none, revokedReason := none }

theorem KeepsToken.asIssued {stored : StoredToken} (kept : KeepsToken stored row)
    : asIssued row = asIssued stored := by
  rw [← kept.same]
  rfl

/-- A token is stored, in use or revoked. -/
def IsStoredToken (kind : PrincipalKind) (state : AuthState) (token : StoredToken) : Prop :=
  ∃ row ∈ (state.server.db.tokens kind).rows, asIssued row = token

/-- A request issues a token in its step: the token is stored then, under an id that no other one
has, and lives for the time of an access token.
-/
structure Issues (libraries : AuthLibraries) (kind : PrincipalKind) (storing stored : AuthState)
    (token : StoredToken) (id : Nat) (endpoint : Endpoint)
    : Prop where
  issuing : AboutToIssue id storing (endpoint, ⟨kind, token.ownerId⟩)
  own : OwnStep libraries id storing stored
  owner : storing.server.db.ownerExists ⟨kind, token.ownerId⟩ = true
  isStored : IsStoredToken kind stored token
  isNew : ∀ other ∈ (storing.server.db.tokens kind).rows, other.id ≠ token.id
  expiresAt : token.expiresAt = storing.server.now + accessTokenTtl

/-- A login presented the credentials of a principal, and in a later step issued the token of a
context, which expires an hour after that.
-/
structure LoggedIn (libraries : AuthLibraries) (history : List AuthState)
    (context : BearerTokenContext) (verifying verified storing stored : AuthState)
    (older earlier : List AuthState) (id : Nat) (endpoint : Endpoint)
    : Prop where
  passes : Passes history storing stored older
  issues : Issues libraries context.kind storing stored (asIssued context.token) id endpoint
  expiresAt : context.token.expiresAt = storing.server.now + accessTokenTtl
  before : Passes (storing :: older) verifying verified earlier
  presents : PresentsIn libraries id verifying verified (endpoint, context.owner)

/-- A login of the past is one of the longer run, too. -/
theorem LoggedIn.of_suffix {verifying verified storing stored : AuthState}
    {older earlier : List AuthState} {endpoint : Endpoint}
    (loggedIn
      : LoggedIn libraries past context verifying verified storing stored older earlier id endpoint)
    (suffix : past <:+ history)
    : LoggedIn libraries history context verifying verified storing stored older earlier id
        endpoint :=
  { loggedIn with passes := loggedIn.passes.of_suffix suffix }

/-- A handler is about to end a token: by revoking its own, or with its owner. -/
inductive EndsToken (request : Request) (kind : PrincipalKind) (row : StoredToken)
    : HandlerPhase → Prop
  | revokes {context : BearerTokenContext} (own : revokesOwnToken request.endpoint = true)
      (isContext : request.context = some context) (sameKind : context.kind = kind)
      (sameToken : context.token.id = row.id)
    : EndsToken request kind row .revoke
  | deletesUser (endpoint : request.endpoint = .deleteAdminUser row.ownerId)
      (isKind : kind = .adminUser)
    : EndsToken request kind row .deleteUser
  | deletesClient (endpoint : request.endpoint = .deleteApiClient row.ownerId)
      (isKind : kind = .apiClient)
    : EndsToken request kind row .deleteClient

theorem keepsToken_of_revokeToken {db : AuthDatabase} {revokes : PrincipalKind} {now : Timestamp}
    {tokenId : Int} {reason : Option String} (stored : row ∈ (db.tokens kind).rows)
    (other : ¬(revokes = kind ∧ tokenId = row.id))
    : row ∈ ((revokeToken db revokes now tokenId reason).tokens kind).rows := by
  by_cases same : kind = revokes
  · subst same
    rw [revokeToken, AuthDatabase.setTokens_self]
    have notRevoked : ¬decide (row.id = tokenId) = true := by
      simpa [eq_comm] using other
    exact List.mem_map.mpr ⟨row, stored, if_neg notRevoked⟩
  · rw [revokeToken, AuthDatabase.setTokens_of_ne same]
    exact stored

theorem keepsToken_of_delete {db : AuthDatabase} {deletes : PrincipalKind} {ownerId : Int}
    (stored : row ∈ (db.tokens kind).rows) (other : ¬(deletes = kind ∧ row.ownerId = ownerId))
    : row ∈ (Function.update db.tokens deletes
        ((db.tokens deletes).delete (·.ownerId = ownerId)) kind).rows := by
  rw [Function.update_apply]
  split
  · rename_i same
    subst same
    exact List.mem_filter.mpr ⟨stored, by simpa using other⟩
  · exact stored

/-- A step of a handler keeps a stored token as it is, or is one that ends it. -/
theorem handlerStepped_keepsToken {current : HandlerPhase} {next : Phase}
    (steps : HandlerStepped libraries server request current after next)
    (stored : row ∈ (server.db.tokens kind).rows)
    : row ∈ (after.db.tokens kind).rows ∨ EndsToken request kind row current := by
  cases steps with
  | @revokedToken payload context endpoint isContext =>
      by_cases own : PrincipalKind.apiClient = kind ∧ context.token.id = row.id
      · exact .inr (.revokes (by rw [endpoint]; rfl) isContext own.1 own.2)
      · exact .inl (keepsToken_of_revokeToken stored own)
  | @loggedOut context endpoint isContext =>
      by_cases own : PrincipalKind.adminUser = kind ∧ context.token.id = row.id
      · exact .inr (.revokes (by rw [endpoint]; rfl) isContext own.1 own.2)
      · exact .inl (keepsToken_of_revokeToken stored own)
  | @deletedUser userId user db endpoint deleted =>
      obtain ⟨_, rfl⟩ := deleteAdminUser_some deleted
      by_cases owned : PrincipalKind.adminUser = kind ∧ row.ownerId = userId
      · exact .inr (.deletesUser (owned.2 ▸ endpoint) owned.1.symm)
      · exact .inl (keepsToken_of_delete stored owned)
  | @deletedClient clientId db endpoint deleted =>
      obtain ⟨_, rfl⟩ := deleteApiClient_true deleted
      by_cases owned : PrincipalKind.apiClient = kind ∧ row.ownerId = clientId
      · exact .inr (.deletesClient (owned.2 ▸ endpoint) owned.1.symm)
      · exact .inl (keepsToken_of_delete stored owned)
  | @inserted owner bytes db created used isNew =>
      obtain ⟨table, rfl, rows, _⟩ := createToken_ok created
      refine .inl ?_
      by_cases same : kind = owner.kind
      · subst same
        rw [AuthDatabase.setTokens_self, rows]
        exact List.mem_append_left _ stored
      · rw [AuthDatabase.setTokens_of_ne same]
        exact stored
  | createdUser endpoint email created =>
      obtain ⟨_, _, rfl, _, _⟩ := createAdminUserWithRoles_ok created
      exact .inl stored
  | updatedUser endpoint updated =>
      obtain ⟨_, rfl⟩ := updateAdminUser_ok updated
      exact .inl stored
  | replacedRoles replaced =>
      obtain ⟨_, rfl⟩ := replaceRolesForAdminUser_ok replaced
      exact .inl stored
  | createdClient endpoint created =>
      obtain ⟨_, rfl⟩ := createApiClient_ok created
      exact .inl stored
  | replacedScopes replaced =>
      obtain ⟨_, rfl⟩ := replaceApiClientScopes_ok replaced
      exact .inl stored
  | updatedClient endpoint updated =>
      obtain ⟨_, rfl⟩ := setApiClient_some updated
      exact .inl stored
  | rotatedSecret endpoint rotated =>
      obtain ⟨_, rfl⟩ := setApiClient_some rotated
      exact .inl stored
  | _ => exact .inl stored

/-- The token that a request has a context of is the one that it carries. -/
theorem carries_of_context (collisionFree : libraries.CollisionFree)
    (reachable : ReachableAuth libraries state) (found : state.requests[id]? = some request)
    (isContext : request.context = some context)
    (stored : row ∈ (state.server.db.tokens context.kind).rows) (sameId : context.token.id = row.id)
    : row.tokenHash = libraries.hashToken request.rawToken := by
  have ledger := tokenLedger_of_reachable collisionFree reachable
  obtain ⟨token, isIssued, describes, sameToken⟩ :=
    (ledger.requests request (List.mem_of_getElem? found)).contexts context (.inl isContext)
  obtain ⟨other, otherIssued, describesRow⟩ := ledger.server.rows context.kind row stored
  have same : token = other := by
    refine ledger.server.idDetermines token isIssued other otherIssued ?_ ?_
    · rw [describes.owner, describesRow.owner]
    · rw [← describes.id, ← describesRow.id, sameId]
  rw [describesRow.tokenHash, ← same, sameToken]

/-- Whose request a step is that ends a token: the token's own, or one of an admin user who deletes
the owner and whom the database granted the permission for it.
-/
inductive EndedBy (libraries : AuthLibraries) (history : List AuthState) (id : Nat)
    (request : Request) (kind : PrincipalKind) (row : StoredToken)
    : Prop
  | holder (revokes : revokesOwnToken request.endpoint = true)
      (carries : row.tokenHash = libraries.hashToken request.rawToken)
    : EndedBy libraries history id request kind row
  | manager {admin : AdminAccessTokenContext} {required : PermissionKey}
      (deletes
        : kind = .adminUser ∧ request.endpoint = .deleteAdminUser row.ownerId
          ∨ kind = .apiClient ∧ request.endpoint = .deleteApiClient row.ownerId)
      (authorized : Authorized libraries history id request admin required)
    : EndedBy libraries history id request kind row

/-- A stored token stays as it is until its holder revokes it, or its owner is deleted by an admin
user with the permission for it: no other request, and nothing else, revokes or removes it.
-/
theorem tokenEnd_byHolder (collisionFree : libraries.CollisionFree)
    (run : History (stepAuth libraries) AuthState.IsInitial (before :: past))
    (taken : stepAuth libraries before action = some next)
    (stored : row ∈ (before.server.db.tokens kind).rows)
    (gone : row ∉ (next.server.db.tokens kind).rows)
    : ∃ id entropy request,
        action = .act id entropy
        ∧ before.requests[id]? = some request
        ∧ EndedBy libraries (before :: past) id request kind row := by
  have differs : next.server.db ≠ before.server.db := fun same => gone (same ▸ stored)
  rcases stepAuth_database taken with ⟨id, entropy, rfl⟩ | same | ⟨_, _, _, _, _, same⟩
  · obtain ⟨request, current, after, found, phase, steps⟩ := handles_of_changed taken differs
    have authorized {required : PermissionKey}
        (requires : requiredPermission request.endpoint = some required)
        : ∃ admin, Authorized libraries (before :: past) id request admin required :=
      authorized_of_handling collisionFree run found phase requires
    refine ⟨id, entropy, request, rfl, found, ?_⟩
    cases (handlerStepped_keepsToken steps stored).resolve_left gone with
    | revokes own isContext sameKind sameToken =>
        subst sameKind
        exact .holder own
          (carries_of_context collisionFree run.reachable found isContext stored sameToken)
    | deletesUser endpoint isKind =>
        obtain ⟨admin, authorized⟩ := authorized (by rw [endpoint]; rfl)
        exact .manager (.inl ⟨isKind, endpoint⟩) authorized
    | deletesClient endpoint isKind =>
        obtain ⟨admin, authorized⟩ := authorized (by rw [endpoint]; rfl)
        exact .manager (.inr ⟨isKind, endpoint⟩) authorized
  · exact absurd same differs
  · rw [same] at gone
    exact absurd stored gone

/-- After a client an admin user logs in and deletes it, up to the statement that does so. -/
def adminDeletesClient : List AuthAction :=
  clientGetsToken
    ++ .start (.issueAdminToken ⟨"admin@shop.test", "secret"⟩) noHeaders :: actTimes 1 2 3
    ++ .start (.deleteApiClient 1) (bearerHeaders (smallToken 2)) :: actTimes 2 2 3

def clientDeletion : Bool :=
  (run (stepAuth smallAuthLibraries) staffedShop adminDeletesClient).any fun before =>
    (stepAuth smallAuthLibraries before (.act 2 (smallEntropy 2))).any fun next =>
      (before.server.db.tokens .apiClient).rows.any fun row =>
        decide (row ∉ (next.server.db.tokens .apiClient).rows)

theorem clientDeletion_runs : clientDeletion = true := by decide +kernel

theorem tokenEnd_byHolder_clientDeletion
    : ∃ before past next row request,
        run (stepAuth smallAuthLibraries) staffedShop adminDeletesClient = some before
        ∧ stepAuth smallAuthLibraries before (.act 2 (smallEntropy 2)) = some next
        ∧ row ∈ (before.server.db.tokens .apiClient).rows
        ∧ before.requests[2]? = some request
        ∧ EndedBy smallAuthLibraries (before :: past) 2 request .apiClient row := by
  obtain ⟨before, ran, scenario⟩ := (Option.any_eq_true _ _).mp clientDeletion_runs
  obtain ⟨next, taken, scenario⟩ := (Option.any_eq_true _ _).mp scenario
  obtain ⟨row, stored, gone⟩ := List.any_eq_true.mp scenario
  obtain ⟨past, history⟩ := (Reachable.of_run (smallAuthState_initial _ _) ran).history
  obtain ⟨_, _, request, isAct, found, ended⟩ :=
    tokenEnd_byHolder smallAuthLibraries_collisionFree history taken stored (of_decide_eq_true gone)
  cases isAct
  exact ⟨before, past, next, row, request, ran, taken, stored, found, ended⟩

end AlonSentinel.System
