import AlonSentinel.Configuration.FromEnv
import AlonSentinel.Domain.AccessTokenRepository
import AlonSentinel.Foundation.ChronoTime
import AlonSentinel.Foundation.UnicodeText

/-! Authentication against the database: by the credentials of an admin user or API client, and
by a token. An error is the message of the rejection.
-/

namespace AlonSentinel.Auth

open Domain
open KeyedTable
open UnicodeText

/-- The functions that authentication takes from elsewhere: SHA-256, salted password hashes, and
the lower case of the database. `usesToken` tells the texts that ever occur as a token.
-/
structure AuthLibraries where
  hashToken : String → String
  usesToken : String → Bool
  hashPassword : String → String → String
  verifyPasswordHash : String → String → Bool
  lower : String → String

/-- No two texts that occur as a token have one hash. -/
structure AuthLibraries.CollisionFree (libraries : AuthLibraries) : Prop where
  injective
    : ∀ first second,
        libraries.usesToken first = true
        → libraries.usesToken second = true
        → libraries.hashToken first = libraries.hashToken second
        → first = second

def tokenPrefixLen : Nat := 12

/-- The characters of a token that are stored in clear. -/
def tokenPrefix (rawToken : String) : String := .ofList (rawToken.toList.take tokenPrefixLen)

abbrev TokenBytes := Vector UInt8 32

/-- The hexadecimal digits of random bytes. -/
def generateRawToken (bytes : TokenBytes) : String :=
  .ofList (bytes.toList.flatMap fun byte =>
    [Nat.digitChar (byte.toNat / 16), Nat.digitChar (byte.toNat % 16)])

/-- An access token lives for an hour. -/
def accessTokenTtl : Int := seconds 3600

/-- When a token expires that is issued under a configuration, on the server's clock in nanoseconds;
`none` is a panic.
-/
def accessTokenExpiry (config : Configuration.Config) (now : Int) : Option Int :=
  ChronoTime.addSeconds now (MachineInteger.asI64 config.accessTokenTtlSeconds.toNat)

structure AccessTokenContext where
  token : AccessToken
  client : ApiClient
  scopes : List String
  permissions : PermissionSet
  deriving DecidableEq

structure AdminAccessTokenContext where
  token : AdminAccessToken
  user : AdminUser
  roles : List String
  permissions : PermissionSet
  deriving DecidableEq

inductive BearerTokenContext where
  | apiClient (context : AccessTokenContext)
  | adminUser (context : AdminAccessTokenContext)
  deriving DecidableEq

namespace BearerTokenContext

/-- The token row as it was read. -/
def token : BearerTokenContext → StoredToken
  | .apiClient context => context.token
  | .adminUser context => context.token

def kind : BearerTokenContext → PrincipalKind
  | .apiClient _ => .apiClient
  | .adminUser _ => .adminUser

/-- Whom the token was issued to. -/
def owner (context : BearerTokenContext) : Principal := ⟨context.kind, context.token.ownerId⟩

def permissions : BearerTokenContext → PermissionSet
  | .apiClient context => context.permissions
  | .adminUser context => context.permissions

end BearerTokenContext

def permissionsFromApiClientScopes (scopes : List String) : PermissionSet :=
  scopes.flatMap fun scope =>
    match scope with
    | "sites:read" =>
        [.sitesRead, .siteMonitorsRead, .siteChecksRead, .siteIncidentsRead,
          .notificationChannelsRead, .siteNotificationChannelOverridesRead,
          .notificationDeliveriesRead]
    | "sites:write" =>
        [.sitesCreate, .sitesUpdate, .sitesDelete, .siteMonitorsCreate, .siteMonitorsUpdate,
          .siteMonitorsDelete, .notificationChannelsCreate, .notificationChannelsUpdate,
          .notificationChannelsDelete, .siteNotificationChannelOverridesCreate,
          .siteNotificationChannelOverridesUpdate, .siteNotificationChannelOverridesDelete]
    | _ => []

------------------------------------------------------------
-- By a token
------------------------------------------------------------

/-- How the rejections of a token are worded. -/
structure TokenMessages where
  invalid : String
  revoked : String
  expired : String
  inactive : String

def accessTokenMessages : TokenMessages where
  invalid := "invalid access token"
  revoked := "access token has been revoked"
  expired := "access token has expired"
  inactive := "api client is inactive"

def adminAccessTokenMessages : TokenMessages where
  invalid := "invalid admin access token"
  revoked := "admin access token has been revoked"
  expired := "admin access token has expired"
  inactive := "admin user is inactive"

/-- Rejects a stored token that must not be used. -/
def checkToken (messages : TokenMessages) (now : Timestamp) (token : StoredToken)
    (ownerIsActive : Bool)
    : Except String Unit :=
  if token.revokedAt.isSome then .error messages.revoked
  else if token.expiresAt ≤ now then .error messages.expired
  else if !ownerIsActive then .error messages.inactive
  else .ok ()

section Tokens

variable (libraries : AuthLibraries) (db : AuthDatabase) (now : Timestamp) (rawToken : String)

def authenticateBearerToken : Except String AccessTokenContext := do
  match getAccessTokenAuthContextByTokenHash db (libraries.hashToken rawToken) with
  | none => throw accessTokenMessages.invalid
  | some (token, client, scopes) =>
      checkToken accessTokenMessages now token client.isActive
      return { token, client, scopes, permissions := permissionsFromApiClientScopes scopes }

def authenticateAdminBearerToken : Except String AdminAccessTokenContext := do
  match getAdminAccessTokenAuthContextByTokenHash db (libraries.hashToken rawToken) with
  | none => throw adminAccessTokenMessages.invalid
  | some (token, user, roles, permissions) =>
      checkToken adminAccessTokenMessages now token user.isActive
      return { token, user, roles, permissions }

/-- Which kind of token has a hash; admin tokens come first. -/
def lookupBearerTokenKind (tokenHash : String) : Option PrincipalKind :=
  if (db.tokens .adminUser).rows.any (·.tokenHash = tokenHash) then some .adminUser
  else if (db.tokens .apiClient).rows.any (·.tokenHash = tokenHash) then some .apiClient
  else none

/-- Authenticates a token of a known kind. -/
def authenticateTokenOfKind : PrincipalKind → Except String BearerTokenContext
  | .adminUser => (authenticateAdminBearerToken libraries db now rawToken).map .adminUser
  | .apiClient => (authenticateBearerToken libraries db now rawToken).map .apiClient

end Tokens

------------------------------------------------------------
-- By credentials
------------------------------------------------------------

section Credentials

variable (libraries : AuthLibraries) (db : AuthDatabase)

def authenticateClientCredentials (clientId clientSecret : String)
    : Except String (ApiClient × List String) :=
  match getApiClientByClientId db clientId with
  | none => .error "invalid client credentials"
  | some client =>
      if !client.isActive then .error "api client is inactive"
      else if !libraries.verifyPasswordHash client.clientSecretHash clientSecret then
        .error "invalid client credentials"
      else .ok (client, listApiClientScopes db client.id)

structure AuthenticatedAdminUser where
  user : AdminUser
  roles : List String
  permissions : PermissionSet

def authenticateAdminCredentials (email password : String)
    : Except String AuthenticatedAdminUser :=
  match getAdminUserByEmail libraries.lower db (trim email) with
  | none => .error "invalid admin credentials"
  | some user =>
      if !user.isActive then .error "admin user is inactive"
      else if !libraries.verifyPasswordHash user.passwordHash password then
        .error "invalid admin credentials"
      else
        .ok
          { user
            roles := listRoleKeysForAdminUser db user.id
            permissions := listPermissionKeysForAdminUser db user.id }

end Credentials

------------------------------------------------------------
-- What an authenticated token was
------------------------------------------------------------

variable {libraries : AuthLibraries} {db : AuthDatabase} {now : Timestamp} {rawToken : String}
  {token : StoredToken}

theorem checkToken_ok {messages : TokenMessages} {ownerIsActive : Bool} {passed : Unit}
    (ok : checkToken messages now token ownerIsActive = .ok passed)
    : token.revokedAt = none ∧ now < token.expiresAt ∧ ownerIsActive = true := by
  unfold checkToken at ok
  split at ok
  · cases ok
  · rename_i unrevoked
    split at ok
    · cases ok
    · rename_i unexpired
      split at ok
      · cases ok
      · rename_i active
        exact ⟨by simpa using unrevoked, Int.not_le.mp unexpired, by simpa using active⟩

/-- A found token is stored and has the hash. -/
theorem getTokenByTokenHash_some {kind : PrincipalKind} {tokenHash : String}
    (found : getTokenByTokenHash db kind tokenHash = some token)
    : token ∈ (db.tokens kind).rows ∧ token.tokenHash = tokenHash :=
  ⟨List.mem_of_find?_eq_some found,
    of_decide_eq_true
      (List.find?_some (p := fun stored : StoredToken => decide (stored.tokenHash = tokenHash))
        found)⟩

/-- The row behind a context that was read: stored, in use, and of an active owner. -/
structure ReadFrom (db : AuthDatabase) (now : Timestamp) (tokenHash : String)
    (context : BearerTokenContext)
    : Prop where
  stored : context.token ∈ (db.tokens context.kind).rows
  tokenHash : context.token.tokenHash = tokenHash
  unrevoked : context.token.revokedAt = none
  unexpired : now < context.token.expiresAt
  active : db.isActive context.owner = true

/-- A token that was found by its hash and passed the check. -/
theorem readFrom_of_checked {tokenHash : String} {context : BearerTokenContext}
    {messages : TokenMessages} {ownerIsActive : Bool} {passed : Unit}
    (found : getTokenByTokenHash db context.kind tokenHash = some context.token)
    (checked : checkToken messages now context.token ownerIsActive = .ok passed)
    (isActive : db.isActive context.owner = ownerIsActive)
    : ReadFrom db now tokenHash context := by
  obtain ⟨stored, same⟩ := getTokenByTokenHash_some found
  obtain ⟨unrevoked, unexpired, active⟩ := checkToken_ok checked
  exact ⟨stored, same, unrevoked, unexpired, isActive.trans active⟩

theorem authenticateTokenOfKind_ok {kind : PrincipalKind} {context : BearerTokenContext}
    (ok : authenticateTokenOfKind libraries db now rawToken kind = .ok context)
    : context.kind = kind ∧ ReadFrom db now (libraries.hashToken rawToken) context := by
  cases kind with
  | adminUser =>
      simp only [authenticateTokenOfKind, authenticateAdminBearerToken] at ok
      split at ok
      · cases ok
      · rename_i token user roles permissions found
        obtain ⟨_, hasHash, found⟩ := Option.bind_eq_some_iff.mp found
        obtain ⟨_, isUser, found⟩ := Option.bind_eq_some_iff.mp found
        cases found
        cases checked : checkToken adminAccessTokenMessages now token user.isActive with
        | error message =>
            rw [checked] at ok
            cases ok
        | ok passed =>
            rw [checked] at ok
            cases ok
            refine ⟨rfl, readFrom_of_checked hasHash checked ?_⟩
            exact congrArg (Option.any AdminUser.isActive) isUser
  | apiClient =>
      simp only [authenticateTokenOfKind, authenticateBearerToken] at ok
      split at ok
      · cases ok
      · rename_i token client scopes found
        obtain ⟨_, hasHash, found⟩ := Option.bind_eq_some_iff.mp found
        obtain ⟨_, isClient, found⟩ := Option.bind_eq_some_iff.mp found
        cases found
        cases checked : checkToken accessTokenMessages now token client.isActive with
        | error message =>
            rw [checked] at ok
            cases ok
        | ok passed =>
            rw [checked] at ok
            cases ok
            refine ⟨rfl, readFrom_of_checked hasHash checked ?_⟩
            exact congrArg (Option.any ApiClient.isActive) isClient

end AlonSentinel.Auth
