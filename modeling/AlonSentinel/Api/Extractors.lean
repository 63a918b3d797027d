import AlonSentinel.Api.RequestContext
import AlonSentinel.Auth.TokenCache

/-! How requests carry tokens: as a bearer token or in the cookie of an admin session, and which
of the two an extractor takes.
-/

namespace AlonSentinel.Api

open Auth
open Domain
open UnicodeText

/-- The headers of a request that carry tokens. -/
structure AuthHeaders where
  authorization : Option HeaderValue
  cookie : Option HeaderValue

/-- What follows a text at the start of another one. -/
def stripPrefix (front text : String) : Option String :=
  if front.toList.isPrefixOf text.toList then
    some (.ofList (text.toList.drop front.toList.length))
  else none

def extractAdminSessionCookie (headers : AuthHeaders) : Except ApiError String :=
  let missing := ApiError.unauthorized "admin session cookie required"
  match headers.cookie.bind HeaderValue.toStr with
  | none => .error missing
  | some cookieHeader =>
      let segments :=
        (cookieHeader.toList.splitOn ';').map fun chars => trim (String.ofList chars)
      match (segments.findSome? (stripPrefix "admin_session=")).filter (· ≠ "") with
      | none => .error missing
      | some token => .ok token

def extractBearerToken (headers : AuthHeaders) : Except ApiError String :=
  match headers.authorization.bind HeaderValue.toStr with
  | none => .error (.unauthorized "missing authorization header")
  | some authorization =>
      match stripPrefix "Bearer " authorization with
      | none => .error (.unauthorized "invalid authorization scheme")
      | some token => .ok token

/-- The extractor that a handler declares. -/
inductive Extractor where
  | authenticatedRequest
  | authenticatedAdminRequest
  | authenticatedApiClientRequest
  deriving DecidableEq

/-- `authenticate_cached_bearer_token` or `authenticate_cached_admin_bearer_token`. -/
inductive TokenLookup where
  | anyBearer
  | adminBearer
  deriving DecidableEq

/-- The token that an extractor takes, and how it looks it up. -/
def Extractor.credential (headers : AuthHeaders)
    : Extractor → Except ApiError (TokenLookup × String)
  | .authenticatedRequest =>
      match extractBearerToken headers with
      | .ok token => .ok (.anyBearer, token)
      | .error _ => (extractAdminSessionCookie headers).map (.adminBearer, ·)
  | .authenticatedAdminRequest =>
      match extractAdminSessionCookie headers with
      | .ok token => .ok (.adminBearer, token)
      | .error _ => (extractBearerToken headers).map (.adminBearer, ·)
  | .authenticatedApiClientRequest => (extractBearerToken headers).map (.anyBearer, ·)

/-- What an extractor makes of an authenticated token. -/
def Extractor.accept : Extractor → BearerTokenContext → Except ApiError BearerTokenContext
  | .authenticatedApiClientRequest, .adminUser _ =>
      .error (.unauthorized "admin bearer token is not valid for this endpoint")
  | _, context => .ok context

/-- What the cache answers to a lookup, and the cache after it. -/
def TokenLookup.cached (libraries : AuthLibraries) (cache : AuthTokenCache) (now : Timestamp)
    (token : String)
    : TokenLookup → Option BearerTokenContext × AuthTokenCache
  | .anyBearer => cache.getBearerContext libraries now token
  | .adminBearer =>
      let (context, used) := cache.getAdminContext libraries now token
      (context.map .adminUser, used)

/-- How a lookup words the rejection of a token by the database. -/
def TokenLookup.rejection (message : String) : TokenLookup → ApiError
  | .anyBearer => .unauthorized "invalid bearer token"
  | .adminBearer => .unauthorized message

/-- The headers of a request with a bearer token. -/
def bearerHeaders (token : String) : AuthHeaders where
  authorization := some ("Bearer " ++ token)
  cookie := none

/-- The digits of a generated token are text. -/
theorem isTextChar_generateRawToken {bytes : TokenBytes} {char : Char}
    (member : char ∈ (generateRawToken bytes).toList)
    : isTextChar char = true := by
  have digits : ∀ digit < 16, isTextChar (Nat.digitChar digit) = true := by decide
  rw [generateRawToken, String.toList_ofList] at member
  obtain ⟨byte, _, isDigit⟩ := List.mem_flatMap.mp member
  have small : byte.toNat < 256 := byte.toNat_lt
  rcases List.mem_cons.mp isDigit with rfl | low
  · exact digits _ (by omega)
  · rw [List.mem_singleton.mp low]
    exact digits _ (Nat.mod_lt _ (by decide))

/-- A generated token is read back from the header that carries it. -/
theorem extractBearerToken_bearerHeaders (bytes : TokenBytes)
    : extractBearerToken (bearerHeaders (generateRawToken bytes))
      = .ok (generateRawToken bytes) := by
  have isText : ("Bearer " ++ generateRawToken bytes).toList.all isTextChar = true := by
    rw [String.toList_append, List.all_append, Bool.and_eq_true]
    exact ⟨by decide, List.all_eq_true.mpr fun _ => isTextChar_generateRawToken⟩
  have stripped
      : stripPrefix "Bearer " ("Bearer " ++ generateRawToken bytes)
        = some (generateRawToken bytes) := by
    unfold stripPrefix
    rw [String.toList_append, if_pos (List.isPrefixOf_iff_prefix.mpr (List.prefix_append _ _)),
      List.drop_left, String.ofList_toList]
  simp only [extractBearerToken, bearerHeaders, Option.bind_some, HeaderValue.toStr, isText,
    if_true, stripped]

------------------------------------------------------------
-- What lookups answer
------------------------------------------------------------

variable {libraries : AuthLibraries} {cache : AuthTokenCache} {now : Timestamp} {token : String}
  {lookup : TokenLookup} {context : BearerTokenContext}

/-- A lookup answers an entry under the key of the token that is still alive. -/
theorem TokenLookup.of_cached
    (found : (lookup.cached libraries cache now token).1 = some context)
    : ∃ key entry,
        buildCacheKey libraries token = some key
        ∧ cache.peek key = some entry
        ∧ entry.isDead now cache.ttl = false
        ∧ entry.context = context := by
  cases lookup with
  | anyBearer => exact AuthTokenCache.getBearerContext_eq_some.mp found
  | adminBearer =>
      obtain ⟨admin, isAdmin, rfl⟩ := Option.map_eq_some_iff.mp found
      exact AuthTokenCache.getBearerContext_eq_some.mp
        (AuthTokenCache.getAdminContext_eq_some.mp isAdmin)

/-- A live entry is answered, to a lookup for admin users if it is one of theirs. -/
theorem TokenLookup.cached_of_live {key : AuthTokenCacheKey} {entry : AuthTokenCacheEntry}
    (isKey : buildCacheKey libraries token = some key) (stored : cache.peek key = some entry)
    (live : entry.isDead now cache.ttl = false)
    (matching : lookup = .anyBearer ∨ entry.context.kind = .adminUser)
    : (lookup.cached libraries cache now token).1 = some entry.context := by
  have found : (cache.getBearerContext libraries now token).1 = some entry.context :=
    AuthTokenCache.getBearerContext_eq_some.mpr ⟨key, entry, isKey, stored, live, rfl⟩
  cases lookup with
  | anyBearer => exact found
  | adminBearer =>
      have isAdmin : entry.context.kind = .adminUser := matching.resolve_left nofun
      cases isContext : entry.context with
      | apiClient context =>
          rw [isContext] at isAdmin
          cases isAdmin
      | adminUser context =>
          exact Option.map_eq_some_iff.mpr
            ⟨context, AuthTokenCache.getAdminContext_eq_some.mpr (found.trans (by rw [isContext])),
              rfl⟩

/-- A lookup leaves no more than there was. -/
theorem TokenLookup.peek_of_peek_cached {key : AuthTokenCacheKey} {entry : AuthTokenCacheEntry}
    (left : (lookup.cached libraries cache now token).2.peek key = some entry)
    : cache.peek key = some entry := by
  cases lookup with
  | anyBearer => exact AuthTokenCache.peek_of_peek_getBearerContext left
  | adminBearer =>
      have same : (TokenLookup.adminBearer.cached libraries cache now token).2
          = (cache.getBearerContext libraries now token).2 :=
        AuthTokenCache.getAdminContext_snd
      rw [same] at left
      exact AuthTokenCache.peek_of_peek_getBearerContext left

/-- A lookup changes no setting of the cache. -/
theorem TokenLookup.cached_settings
    : (lookup.cached libraries cache now token).2.ttl = cache.ttl
      ∧ (lookup.cached libraries cache now token).2.entries.isSome = cache.entries.isSome := by
  cases lookup with
  | anyBearer => exact AuthTokenCache.getBearerContext_settings
  | adminBearer =>
      have same : (TokenLookup.adminBearer.cached libraries cache now token).2
          = (cache.getBearerContext libraries now token).2 :=
        AuthTokenCache.getAdminContext_snd
      rw [same]
      exact AuthTokenCache.getBearerContext_settings

end AlonSentinel.Api
