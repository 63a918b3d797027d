import AlonSentinel.System.EndedTokens

/-! Requests that are served one after the other. Then the cached contexts of admin users rest on
stored tokens, and the handlers that update or delete an admin user end all of the user's.
-/

namespace AlonSentinel.System

open Api
open Auth
open Domain
open KeyedTable
open Relation
open TransitionSystem

variable {libraries : AuthLibraries} {server after : AuthServer} {request stepped : Request}
  {entropy : Entropy} {state next : AuthState} {id : Nat}

------------------------------------------------------------
-- Sequences of requests
------------------------------------------------------------

/-- No request is in progress. -/
def AuthState.isIdle (state : AuthState) : Bool := state.requests.all (·.phase.isOver)

/-- A request starts when the one before it is answered, and none is dropped. -/
def Sequential (state : AuthState) (action : AuthAction) (_ : AuthState) : Prop :=
  match action with
  | .start _ _ | .changeRoles _ _ _ _ | .restart => state.isIdle = true
  | .abort _ => False
  | .act _ _ | .fail _ _ | .advance _ => True

instance (state : AuthState) (action : AuthAction) (next : AuthState)
    : Decidable (Sequential state action next) :=
  match action with
  | .start _ _ | .changeRoles _ _ _ _ | .restart => inferInstanceAs (Decidable (_ = true))
  | .abort _ => inferInstanceAs (Decidable False)
  | .act _ _ | .fail _ _ | .advance _ => inferInstanceAs (Decidable True)

/-- A state of a system that serves its requests one after the other. -/
def ReachableInTurn (libraries : AuthLibraries) (state : AuthState) : Prop :=
  ∃ start,
    start.IsInitial ∧ ReflTransGen (NextWhere (stepAuth libraries) Sequential) start state

/-- Only the last request may be in progress. -/
def OneAtATime (state : AuthState) : Prop :=
  ∀ id request,
    state.requests[id]? = some request
    → request.phase.isOver = false
    → id + 1 = state.requests.length

------------------------------------------------------------
-- What holds between the steps of a request
------------------------------------------------------------

/-- The row that a context was read from is stored as it was, and not revoked. -/
structure Unrevoked (db : AuthDatabase) (context : BearerTokenContext) : Prop where
  stored : context.token ∈ (db.tokens context.kind).rows
  unrevoked : context.token.revokedAt = none

/-- The cached contexts of a principal are no longer answered. -/
def NoneLive (server : AuthServer) (principal : Principal) : Prop :=
  ∀ key entry,
    server.cache.peek key = some entry
    → entry.context.owner = principal
    → entry.isDead server.now server.cache.ttl = true

/-- The tokens whose contexts a handler is about to end are all those of a user. -/
def CoversLive (server : AuthServer) (userId : Int) (tokens : List AdminAccessToken) : Prop :=
  ∀ key entry,
    server.cache.peek key = some entry
    → entry.context.owner = ⟨.adminUser, userId⟩
    → entry.isDead server.now server.cache.ttl = false
    → ∃ token ∈ tokens, key = ⟨token.tokenPrefix, token.tokenHash⟩

/-- The admin user whose contexts a handler ends. -/
def managedUser? : Endpoint → Option Int
  | .updateAdminUser userId _ | .deleteAdminUser userId => some userId
  | _ => none

/-- The principal that a handler deactivates. -/
def deactivated? : Endpoint → Option Principal
  | .updateAdminUser userId payload => if payload.isActive then none else some ⟨.adminUser, userId⟩
  | .updateApiClient clientId payload =>
      if payload.isActive then none else some ⟨.apiClient, clientId⟩
  | _ => none

/-- How far a handler is in ending the contexts of a user. -/
def EndsContexts (server : AuthServer) (userId : Int) : Phase → Prop
  | .handle (.replaceRoles user _) | .handle (.listTokens user) => user = userId
  | .handle (.invalidateTokens tokens) => CoversLive server userId tokens
  | .handle .readResponse | .handle .deleteUser => NoneLive server ⟨.adminUser, userId⟩
  | _ => True

/-- Whether a handler has run its update. -/
def Phase.hasUpdated : Phase → Bool
  | .handle (.replaceRoles _ _) | .handle (.listTokens _) | .handle (.invalidateTokens _)
  | .handle .readResponse => true
  | _ => false

/-- What holds before the next step of the only request in progress. -/
structure InTurn (server : AuthServer) (request : Request) : Prop where
  pending : ∀ context, request.phase = .insertCache context → Unrevoked server.db context
  managed
    : ∀ userId,
        managedUser? request.endpoint = some userId
        → EndsContexts server userId request.phase
  deactivated
    : ∀ principal,
        deactivated? request.endpoint = some principal
        → Phase.hasUpdated request.phase = true
        → server.db.isActive principal = false

/-- A request is about to end the context of a token that it has revoked. -/
def LogsOut (request : Request) (id : Int) : Prop :=
  request.endpoint = .logoutAdmin
  ∧ request.phase = .handle .invalidate
  ∧ ∃ context, request.context = some (.adminUser context) ∧ context.token.id = id

/-- The live cached contexts of admin users rest on stored tokens, but for the one that a request
is about to end.
-/
def AdminContextsStored (server : AuthServer) (request : Request) : Prop :=
  ∀ key entry,
    server.cache.peek key = some entry
    → entry.context.kind = .adminUser
    → entry.isDead server.now server.cache.ttl = false
    → Unrevoked server.db entry.context ∨ LogsOut request entry.context.token.id

/-- The states between the steps of requests that are served one after the other. -/
structure ServedInTurn (state : AuthState) : Prop where
  oneAtATime : OneAtATime state
  inTurn : ∀ request ∈ state.requests, InTurn state.server request
  cached
    : ∀ key entry,
        state.server.cache.peek key = some entry
        → entry.context.kind = .adminUser
        → entry.isDead state.server.now state.server.cache.ttl = false
        → Unrevoked state.server.db entry.context
          ∨ ∃ request ∈ state.requests, LogsOut request entry.context.token.id

------------------------------------------------------------
-- Phases that carry nothing
------------------------------------------------------------

/-- Phases in which nothing needs to hold. -/
def Phase.isFree : Phase → Bool
  | .insertCache _ => false
  | .handle (.replaceRoles _ _) | .handle (.listTokens _) | .handle (.invalidateTokens _)
  | .handle .readResponse | .handle .deleteUser => false
  | _ => true

theorem InTurn.of_isFree (free : Phase.isFree request.phase = true) : InTurn server request := by
  refine ⟨fun context isPending => ?_, fun userId _ => ?_, fun principal _ updated => ?_⟩
  · rw [isPending] at free
    cases free
  · unfold EndsContexts
    split <;> first | trivial | (rename_i isPhase; rw [isPhase] at free; cases free)
  · unfold Phase.hasUpdated at updated
    split at updated
    all_goals first
      | (cases updated; done)
      | (rename_i isPhase; rw [isPhase] at free; cases free)

theorem Phase.isFree_of_isOver {phase : Phase} (finished : phase.isOver = true)
    : Phase.isFree phase = true := by
  cases phase with
  | responded _ | aborted => rfl
  | _ => cases finished

theorem Phase.isFree_of_isStart {phase : Phase} (start : phase.IsStart)
    : Phase.isFree phase = true := by
  cases phase with
  | handle current =>
      cases current with
      | replaceRoles _ _ | listTokens _ | invalidateTokens _ | readResponse | deleteUser =>
          cases start
      | _ => rfl
  | responded _ | aborted => rfl
  | _ => cases start

theorem Phase.isFree_authenticated (request : Request) (context : BearerTokenContext)
    : Phase.isFree (request.authenticated context).phase = true := by
  rcases request.authenticated_cases context with same | ⟨phase, failed, same⟩
  · rw [same]
    exact Phase.isFree_of_isStart (startHandler_isStart _ _ context)
  · rw [same]
    exact Phase.isFree_of_isOver (Phase.isOver_of_hasFailed failed)

------------------------------------------------------------
-- The steps of the request in progress
------------------------------------------------------------

/-- What an update of a user leaves: the user has the id that was asked for. -/
theorem updateAdminUser_id {db after : AuthDatabase} {userId : Int}
    {params : AdminUserUpdateParams} {user : AdminUser}
    (updated : updateAdminUser db userId params = .ok (some user, after))
    : user.id = userId ∧ after.isActive ⟨.adminUser, userId⟩ = params.isActive := by
  obtain ⟨⟨stored, found, rfl⟩, rfl⟩ := updateAdminUser_ok updated
  have isId : stored.id = userId := (Table.mem_of_find? found).2
  have set
      : (db.adminUsers.update (·.id = userId) params.set).find? userId
        = some (params.set stored) :=
    SerialTable.find?_update_of_matched found (decide_eq_true isId)
  exact ⟨isId, congrArg (Option.any AdminUser.isActive) set⟩

/-- What an update of a client leaves. -/
theorem updateApiClient_isActive {db after : AuthDatabase} {clientId : Int} {name : String}
    {description : Option String} {isActive : Bool} {client : ApiClient}
    (updated : updateApiClient db clientId name description isActive = (some client, after))
    : after.isActive ⟨.apiClient, clientId⟩ = isActive := by
  obtain ⟨⟨stored, found, rfl⟩, rfl⟩ := setApiClient_some updated
  have isId : stored.id = clientId := (Table.mem_of_find? found).2
  exact congrArg (Option.any ApiClient.isActive)
    (SerialTable.find?_update_of_matched found (decide_eq_true isId))

/-- The list of the active tokens of a user covers the live contexts of the user. -/
theorem coversLive_listActiveTokens (ledger : ServerLedger libraries server)
    (cached : AdminContextsStored server request) (isListing : ∀ id, ¬LogsOut request id)
    (userId : Int)
    : CoversLive server userId (listActiveTokensForAdminUser server.db server.now userId) := by
  intro key entry found owned live
  have isAdmin : entry.context.kind = .adminUser := congrArg Principal.kind owned
  have isOwner : entry.context.token.ownerId = userId := congrArg Principal.id owned
  obtain ⟨stored, unrevoked⟩ :=
    (cached key entry found isAdmin live).resolve_right (isListing _)
  obtain ⟨token, _, describes, isKey⟩ := ledger.cached key entry found
  have unexpired : server.now < entry.context.token.expiresAt :=
    Int.not_le.mp (of_decide_eq_false (Bool.or_eq_false_iff.mp live).2)
  refine ⟨entry.context.token, List.mem_filter.mpr ⟨isAdmin ▸ stored, ?_⟩, ?_⟩
  · simp [isOwner, unrevoked, unexpired]
  · unfold buildCacheKey at isKey
    split at isKey
    · cases isKey
    · rw [← Option.some.inj isKey, describes.tokenPrefix, describes.tokenHash]

/-- An entry that is left was under none of the keys that were removed. -/
theorem peek_invalidateTokens {cache : AuthTokenCache} {tokens : List AdminAccessToken}
    {key : AuthTokenCacheKey} {entry : AuthTokenCacheEntry}
    (left : (invalidateTokens cache tokens).peek key = some entry)
    : ∀ token ∈ tokens, key ≠ ⟨token.tokenPrefix, token.tokenHash⟩ := by
  induction tokens generalizing cache with
  | nil => exact fun _ member => absurd member List.not_mem_nil
  | cons first rest ih =>
      refine List.forall_mem_cons.mpr ⟨?_, ih left⟩
      rintro rfl
      have still
          : (cache.invalidateKey ⟨first.tokenPrefix, first.tokenHash⟩).peek
              ⟨first.tokenPrefix, first.tokenHash⟩
            = some entry :=
        (CacheShrinks.invalidateTokens _ rest).peek _ entry left
      rw [AuthTokenCache.peek_invalidateKey, if_pos rfl] at still
      cases still

/-- Removing the contexts of all tokens that cover a user leaves none of the user's. -/
theorem noneLive_invalidateTokens {userId : Int} {tokens : List AdminAccessToken}
    (covers : CoversLive server userId tokens)
    : NoneLive { server with cache := invalidateTokens server.cache tokens }
        ⟨.adminUser, userId⟩ := by
  intro key entry left owned
  have shrinks := CacheShrinks.invalidateTokens server.cache tokens
  cases dead : entry.isDead server.now (invalidateTokens server.cache tokens).ttl with
  | true => rfl
  | false =>
      rw [shrinks.ttl] at dead
      obtain ⟨token, member, isKey⟩ := covers key entry (shrinks.peek key entry left) owned dead
      exact absurd isKey (peek_invalidateTokens left token member)

/-- What holds before the next step of a handler. -/
theorem InTurn.handled (ledger : ServerLedger libraries server) (own : InTurn server request)
    (cached : AdminContextsStored server request) {current : HandlerPhase} {next : Phase}
    (isPhase : request.phase = .handle current)
    (steps : HandlerStepped libraries server request current after next)
    : InTurn after { request with phase := next } := by
  cases steps with
  | createdUser endpoint | rotatedSecret endpoint =>
      refine ⟨fun _ pending => (by cases pending), fun userId managed => ?_,
        fun principal deactivates _ => ?_⟩
      · rw [endpoint] at managed
        cases managed
      · rw [endpoint] at deactivates
        cases deactivates
  | updatedUser endpoint updated =>
      obtain ⟨isId, isActive⟩ := updateAdminUser_id updated
      refine ⟨fun _ pending => (by cases pending), fun userId managed => ?_,
        fun principal deactivates _ => ?_⟩
      · rw [endpoint] at managed
        cases managed
        exact isId
      · simp only [endpoint, deactivated?] at deactivates
        split at deactivates
        · cases deactivates
        · cases deactivates
          rw [isActive]
          exact Bool.eq_false_iff.mpr ‹_›
  | replacedRoles replaced =>
      obtain ⟨_, rfl⟩ := replaceRolesForAdminUser_ok replaced
      refine ⟨fun _ pending => (by cases pending), fun userId managed => ?_,
        fun principal deactivates _ => own.deactivated principal deactivates (by rw [isPhase]; rfl)⟩
      have same := own.managed userId managed
      rw [isPhase] at same
      exact same
  | counted endpoint several =>
      refine ⟨fun _ pending => (by cases pending), fun userId managed => ?_,
        fun principal deactivates _ => ?_⟩
      · rw [endpoint] at managed
        cases managed
        rfl
      · rw [endpoint] at deactivates
        cases deactivates
  | listed userId =>
      refine ⟨fun _ pending => (by cases pending), fun user managed => ?_,
        fun principal deactivates _ => own.deactivated principal deactivates (by rw [isPhase]; rfl)⟩
      have same := own.managed user managed
      rw [isPhase] at same
      obtain rfl : userId = user := same
      refine coversLive_listActiveTokens ledger cached (fun id logsOut => ?_) userId
      cases isPhase.symm.trans logsOut.2.1
  | endedTokensForUpdate tokens endpoint =>
      refine ⟨fun _ pending => (by cases pending), fun user managed => ?_,
        fun principal deactivates _ => own.deactivated principal deactivates (by rw [isPhase]; rfl)⟩
      have covers := own.managed user managed
      rw [isPhase] at covers
      exact noneLive_invalidateTokens covers
  | endedTokensForDeletion tokens endpoint =>
      refine ⟨fun _ pending => (by cases pending), fun user managed => ?_,
        fun principal deactivates _ => ?_⟩
      · have covers := own.managed user managed
        rw [isPhase] at covers
        exact noneLive_invalidateTokens covers
      · rw [endpoint] at deactivates
        cases deactivates
  | updatedClient endpoint updated =>
      refine ⟨fun _ pending => (by cases pending), fun userId managed => ?_,
        fun principal deactivates _ => ?_⟩
      · rw [endpoint] at managed
        cases managed
      · simp only [endpoint, deactivated?] at deactivates
        split at deactivates
        · cases deactivates
        · cases deactivates
          rw [updateApiClient_isActive updated]
          exact Bool.eq_false_iff.mpr ‹_›
  | _ => exact .of_isFree rfl

/-- What holds before the next step of the request in progress. -/
theorem InTurn.step (ledger : ServerLedger libraries server) (own : InTurn server request)
    (cached : AdminContextsStored server request)
    (steps : RequestStepped libraries server request entropy after stepped)
    : InTurn after stepped := by
  cases steps with
  | @lookedUp lookup phase =>
      cases (lookup.cached libraries server.cache server.now request.rawToken).1 with
      | none => cases lookup <;> exact .of_isFree rfl
      | some context => exact .of_isFree (Phase.isFree_authenticated request context)
  | foundKind | rejected => exact .of_isFree rfl
  | read phase ok =>
      refine ⟨fun context pending => ?_, fun _ _ => trivial, fun _ _ updated => (by cases updated)⟩
      cases pending
      have read := (authenticateTokenOfKind_ok ok).2
      exact ⟨read.stored, read.unrevoked⟩
  | inserted pending => exact .of_isFree (Phase.isFree_authenticated request _)
  | handled phase handles => exact own.handled ledger cached phase (handlerStep_cases handles)

------------------------------------------------------------
-- Cached contexts and the rows they were read from
------------------------------------------------------------

/-- A request in another phase than the last one of a logout ends no context. -/
theorem not_logsOut {id : Int} (phase : request.phase ≠ .handle .invalidate)
    : ¬LogsOut request id :=
  fun logsOut => phase logsOut.2.1

/-- The cached contexts keep their rows when nothing is cached and no unrevoked row goes. -/
theorem AdminContextsStored.keep (cached : AdminContextsStored server request)
    (phase : request.phase ≠ .handle .invalidate)
    (peek : ∀ key entry, after.cache.peek key = some entry → server.cache.peek key = some entry)
    (now : after.now = server.now) (ttl : after.cache.ttl = server.cache.ttl)
    (kept
      : ∀ key entry,
          server.cache.peek key = some entry
          → entry.context.kind = .adminUser
          → entry.isDead server.now server.cache.ttl = false
          → Unrevoked server.db entry.context
          → Unrevoked after.db entry.context)
    : AdminContextsStored after stepped := by
  intro key entry found isAdmin live
  rw [now, ttl] at live
  have before := peek key entry found
  exact .inl (kept key entry before isAdmin live
    ((cached key entry before isAdmin live).resolve_right (not_logsOut phase)))

/-- The other tokens are left alone by a revocation. -/
theorem Unrevoked.revokeToken {db : AuthDatabase} {context : BearerTokenContext}
    (unrevoked : Unrevoked db context) {kind : PrincipalKind} {id : Int} (now : Timestamp)
    (reason : Option String) (different : context.kind = kind → context.token.id ≠ id)
    : Unrevoked (revokeToken db kind now id reason) context := by
  refine ⟨?_, unrevoked.unrevoked⟩
  by_cases same : context.kind = kind
  · rw [Domain.revokeToken, same, AuthDatabase.setTokens_self, SerialTable.rows_update]
    exact List.mem_map.mpr ⟨context.token, same ▸ unrevoked.stored,
      if_neg (by simpa using different same)⟩
  · rw [Domain.revokeToken, AuthDatabase.setTokens_of_ne same]
    exact unrevoked.stored

theorem Unrevoked.createToken {db after : AuthDatabase} {context : BearerTokenContext}
    (unrevoked : Unrevoked db context) {kind : PrincipalKind} {new : NewToken}
    (stored : createToken db kind new = .ok after)
    : Unrevoked after context := by
  obtain ⟨table, rfl, rows, _⟩ := createToken_ok stored
  refine ⟨?_, unrevoked.unrevoked⟩
  by_cases same : context.kind = kind
  · rw [same, AuthDatabase.setTokens_self, rows]
    exact List.mem_append_left _ (same ▸ unrevoked.stored)
  · rw [AuthDatabase.setTokens_of_ne same]
    exact unrevoked.stored

/-- A deletion of the tokens of one owner leaves the other tokens alone. -/
theorem Unrevoked.deleteOwner {db after : AuthDatabase} {context : BearerTokenContext}
    (unrevoked : Unrevoked db context) (owner : Principal)
    (tokens
      : after.tokens
        = Function.update db.tokens owner.kind
            ((db.tokens owner.kind).delete (·.ownerId = owner.id)))
    (different : context.owner ≠ owner)
    : Unrevoked after context := by
  refine ⟨?_, unrevoked.unrevoked⟩
  rw [tokens, Function.update_apply]
  split
  · rename_i same
    refine List.mem_filter.mpr ⟨same ▸ unrevoked.stored, ?_⟩
    have otherId : context.token.ownerId ≠ owner.id := by
      intro sameId
      exact different (by rw [BearerTokenContext.owner, same, sameId])
    simpa using otherId
  · exact unrevoked.stored

/-- A logout ends the context of the token that it has revoked. -/
theorem not_peek_of_loggedOut (ledger : ServerLedger libraries server)
    (own : RequestLedger libraries server request) {context : BearerTokenContext}
    (isContext : request.context = some context) {key : AuthTokenCacheKey}
    {entry : AuthTokenCacheEntry}
    (left
      : (server.cache.invalidateHashedToken context.token.tokenPrefix
          context.token.tokenHash).peek key
        = some entry)
    (isAdmin : entry.context.kind = .adminUser)
    : ¬LogsOut request entry.context.token.id := by
  rintro ⟨_, _, admin, isAdminContext, sameId⟩
  obtain rfl := Option.some.inj (isContext.symm.trans isAdminContext)
  have before := (CacheShrinks.invalidateKey server.cache _).peek key entry left
  obtain ⟨token, member, describes, isKey⟩ := ledger.cached key entry before
  obtain ⟨other, otherMember, otherDescribes, _⟩ := own.contexts _ (.inl isContext)
  obtain rfl : token = other := by
    refine ledger.idDetermines token member other otherMember ?_ ?_
    · rw [congrArg Principal.kind describes.owner, congrArg Principal.kind otherDescribes.owner]
      exact isAdmin
    · rw [← describes.id, ← otherDescribes.id]
      exact sameId.symm
  have same
      : key = ⟨admin.token.tokenPrefix, admin.token.tokenHash⟩ := by
    unfold buildCacheKey at isKey
    split at isKey
    · cases isKey
    · have prefixed : admin.token.tokenPrefix = tokenPrefix token.rawToken :=
        otherDescribes.tokenPrefix
      have hashed : admin.token.tokenHash = libraries.hashToken token.rawToken :=
        otherDescribes.tokenHash
      rw [← Option.some.inj isKey, prefixed, hashed]
  have removed
      : (server.cache.invalidateKey ⟨admin.token.tokenPrefix, admin.token.tokenHash⟩).peek key
        = some entry :=
    left
  rw [AuthTokenCache.peek_invalidateKey, if_pos same] at removed
  cases removed

/-- A step of a handler leaves the rows of the cached contexts, or revokes the one that it is
about to end.
-/
theorem AdminContextsStored.handled (ledger : ServerLedger libraries server)
    (holds : RequestLedger libraries server request) (own : InTurn server request)
    (cached : AdminContextsStored server request) {current : HandlerPhase} {next : Phase}
    (isPhase : request.phase = .handle current)
    (steps : HandlerStepped libraries server request current after next)
    : AdminContextsStored after { request with phase := next } := by
  have phase (different : current ≠ .invalidate) : request.phase ≠ .handle .invalidate := by
    intro same
    rw [isPhase] at same
    exact different (Phase.handle.inj same)
  cases steps with
  | rejected error checks =>
      exact cached.keep (phase checks) (fun _ _ => id) rfl rfl fun _ _ _ _ _ => id
  | credentials | recorded | audited | resolvedForCreation | resolvedForUpdate | counted | listed
  | responded =>
      exact cached.keep (phase nofun) (fun _ _ => id) rfl rfl fun _ _ _ _ _ => id
  | inserted stored =>
      exact cached.keep (phase nofun) (fun _ _ => id) rfl rfl
        fun _ _ _ _ _ unrevoked => unrevoked.createToken stored
  | revokedToken endpoint isContext =>
      exact cached.keep (phase nofun) (fun _ _ => id) rfl rfl
        fun key entry _ isAdmin _ unrevoked =>
          unrevoked.revokeToken _ _ fun isClient => nomatch isAdmin.symm.trans isClient
  | @loggedOut context endpoint isContext =>
      intro key entry found isAdmin live
      by_cases same : entry.context.token.id = context.token.id
      · exact .inr ⟨endpoint, rfl, context, isContext, same.symm⟩
      · have unrevoked := (cached key entry found isAdmin live).resolve_right
          (not_logsOut (phase nofun))
        exact .inl (unrevoked.revokeToken _ _ fun _ => same)
  | endedRawToken endpoint =>
      intro key entry found isAdmin live
      have shrinks := CacheShrinks.invalidateRawToken libraries server.cache request.rawToken
      rw [shrinks.ttl] at live
      refine .inl ((cached key entry (shrinks.peek key entry found) isAdmin live).resolve_right
        fun logsOut => ?_)
      cases endpoint.symm.trans logsOut.1
  | endedHashedToken endpoint isContext =>
      intro key entry found isAdmin live
      have before := (CacheShrinks.invalidateKey server.cache _).peek key entry found
      exact .inl ((cached key entry before isAdmin live).resolve_right
        (not_peek_of_loggedOut ledger holds isContext found isAdmin))
  | createdUser endpoint email created =>
      obtain ⟨_, _, rfl, _, _⟩ := createAdminUserWithRoles_ok created
      exact cached.keep (phase nofun) (fun _ _ => id) rfl rfl
        fun _ _ _ _ _ unrevoked => ⟨unrevoked.stored, unrevoked.unrevoked⟩
  | updatedUser endpoint updated =>
      obtain ⟨_, rfl⟩ := updateAdminUser_ok updated
      exact cached.keep (phase nofun) (fun _ _ => id) rfl rfl
        fun _ _ _ _ _ unrevoked => ⟨unrevoked.stored, unrevoked.unrevoked⟩
  | replacedRoles replaced =>
      obtain ⟨_, rfl⟩ := replaceRolesForAdminUser_ok replaced
      exact cached.keep (phase nofun) (fun _ _ => id) rfl rfl
        fun _ _ _ _ _ unrevoked => ⟨unrevoked.stored, unrevoked.unrevoked⟩
  | endedTokensForUpdate tokens | endedTokensForDeletion tokens =>
      have shrinks := CacheShrinks.invalidateTokens server.cache tokens
      exact cached.keep (phase nofun) shrinks.peek rfl shrinks.ttl fun _ _ _ _ _ => id
  | @deletedUser userId user db endpoint deleted =>
      obtain ⟨_, rfl⟩ := deleteAdminUser_some deleted
      have noneLive := own.managed userId (by rw [endpoint]; rfl)
      rw [isPhase] at noneLive
      refine cached.keep (phase nofun) (fun _ _ => id) rfl rfl
        fun key entry found _ live unrevoked =>
          unrevoked.deleteOwner ⟨.adminUser, userId⟩ rfl fun owned => ?_
      rw [noneLive key entry found owned] at live
      cases live
  | createdClient endpoint created =>
      obtain ⟨_, rfl⟩ := createApiClient_ok created
      exact cached.keep (phase nofun) (fun _ _ => id) rfl rfl
        fun _ _ _ _ _ unrevoked => ⟨unrevoked.stored, unrevoked.unrevoked⟩
  | replacedScopes replaced =>
      obtain ⟨_, rfl⟩ := replaceApiClientScopes_ok replaced
      exact cached.keep (phase nofun) (fun _ _ => id) rfl rfl
        fun _ _ _ _ _ unrevoked => ⟨unrevoked.stored, unrevoked.unrevoked⟩
  | updatedClient endpoint isSet | rotatedSecret endpoint isSet =>
      obtain ⟨_, rfl⟩ := setApiClient_some isSet
      exact cached.keep (phase nofun) (fun _ _ => id) rfl rfl
        fun _ _ _ _ _ unrevoked => ⟨unrevoked.stored, unrevoked.unrevoked⟩
  | @deletedClient clientId db endpoint deleted =>
      obtain ⟨_, rfl⟩ := deleteApiClient_true deleted
      refine cached.keep (phase nofun) (fun _ _ => id) rfl rfl
        fun key entry _ isAdmin _ unrevoked =>
          unrevoked.deleteOwner ⟨.apiClient, clientId⟩ rfl fun owned => ?_
      cases isAdmin.symm.trans (congrArg Principal.kind owned)

theorem AdminContextsStored.step (ledger : ServerLedger libraries server)
    (holds : RequestLedger libraries server request) (own : InTurn server request)
    (cached : AdminContextsStored server request)
    (steps : RequestStepped libraries server request entropy after stepped)
    : AdminContextsStored after stepped := by
  have phase (reads : request.phase.isAuthentication = true)
      : request.phase ≠ .handle .invalidate := by
    intro same
    rw [same] at reads
    cases reads
  cases steps with
  | @lookedUp lookup isPhase =>
      have shrinks
          : CacheShrinks server.cache
              (lookup.cached libraries server.cache server.now request.rawToken).2 :=
        .lookup _ _ _ _
      exact cached.keep (phase (by rw [isPhase]; rfl)) shrinks.peek rfl shrinks.ttl
        fun _ _ _ _ _ => id
  | foundKind kind reads | rejected error reads =>
      exact cached.keep (phase reads) (fun _ _ => id) rfl rfl fun _ _ _ _ _ => id
  | read isPhase ok =>
      exact cached.keep (phase (by rw [isPhase]; rfl)) (fun _ _ => id) rfl rfl
        fun _ _ _ _ _ => id
  | @inserted context isPhase =>
      intro key entry found isAdmin live
      rw [AuthTokenCache.insertBearerContext_settings.1] at live
      rcases AuthTokenCache.peek_of_peek_insertBearerContext found with ⟨_, rfl⟩ | before
      · exact .inl (own.pending context isPhase)
      · exact .inl ((cached key entry before isAdmin live).resolve_right
          (not_logsOut (phase (by rw [isPhase]; rfl))))
  | handled isPhase handles =>
      exact cached.handled ledger holds own isPhase (handlerStep_cases handles)

------------------------------------------------------------
-- The steps of the system
------------------------------------------------------------

theorem isOver_of_isIdle (idle : state.isIdle = true) (member : request ∈ state.requests)
    : request.phase.isOver = true :=
  List.all_eq_true.mp idle request member

/-- While one request is in progress, all others are over. -/
theorem OneAtATime.isOver (oneAtATime : OneAtATime state)
    (found : state.requests[id]? = some request) (running : request.phase.isOver = false)
    {other : Nat} {late : Request} (otherFound : state.requests[other]? = some late)
    (different : other ≠ id)
    : late.phase.isOver = true := by
  cases finished : late.phase.isOver with
  | true => rfl
  | false =>
      have isLast := oneAtATime id request found running
      have otherLast := oneAtATime other late otherFound finished
      exact absurd (Nat.succ.inj (otherLast.trans isLast.symm)) different

/-- A request that can take a step is not over. -/
theorem requestStepped_running
    (steps : RequestStepped libraries server request entropy after stepped)
    : request.phase.isOver = false := by
  cases steps with
  | lookedUp phase | read phase | inserted phase | handled phase => rw [phase]; rfl
  | foundKind kind reads | rejected error reads =>
      cases isPhase : request.phase with
      | responded _ | aborted =>
          rw [isPhase] at reads
          cases reads
      | _ => rfl

theorem LogsOut.running {id : Int} (logsOut : LogsOut request id)
    : request.phase.isOver = false := by
  rw [logsOut.2.1]
  rfl

/-- The context that is about to end is that of the request in progress. -/
theorem ServedInTurn.ofRunning (served : ServedInTurn state)
    (found : state.requests[id]? = some request) (running : request.phase.isOver = false)
    : AdminContextsStored state.server request := by
  intro key entry stored isAdmin live
  refine (served.cached key entry stored isAdmin live).imp_right fun ⟨other, member, logsOut⟩ => ?_
  obtain ⟨otherId, otherFound⟩ := List.getElem?_of_mem member
  by_cases same : otherId = id
  · rw [same] at otherFound
    obtain rfl := Option.some.inj (found.symm.trans otherFound)
    exact logsOut
  · have finished := served.oneAtATime.isOver found running otherFound same
    rw [logsOut.running] at finished
    cases finished

/-- While no request is in progress, every live context of an admin user has its row. -/
theorem ServedInTurn.ofIdle (served : ServedInTurn state) (idle : state.isIdle = true)
    {key : AuthTokenCacheKey} {entry : AuthTokenCacheEntry}
    (stored : state.server.cache.peek key = some entry)
    (isAdmin : entry.context.kind = .adminUser)
    (live : entry.isDead state.server.now state.server.cache.ttl = false)
    : Unrevoked state.server.db entry.context := by
  refine (served.cached key entry stored isAdmin live).resolve_right ?_
  rintro ⟨request, member, logsOut⟩
  have finished := isOver_of_isIdle idle member
  rw [logsOut.running] at finished
  cases finished

theorem ServedInTurn.initial (initial : state.IsInitial) : ServedInTurn state where
  oneAtATime id request found := by
    rw [initial.requests] at found
    cases found
  inTurn request member := by
    rw [initial.requests] at member
    exact (List.not_mem_nil member).elim
  cached key entry found := by
    rw [initial.cache, AuthTokenCache.peek_new] at found
    cases found

/-- The request in progress takes a step, or ends. -/
theorem ServedInTurn.setRequest (served : ServedInTurn state) (after : AuthServer)
    (found : state.requests[id]? = some request) (running : request.phase.isOver = false)
    (inTurn : InTurn after stepped) (cached : AdminContextsStored after stepped)
    : ServedInTurn { state.setRequest id stepped with server := after } where
  oneAtATime other late otherFound unfinished := by
    have sameLength : (state.requests.set id stepped).length = state.requests.length :=
      List.length_set
    refine Eq.trans ?_ sameLength.symm
    rcases setRequest_cases otherFound with ⟨rfl, _⟩ | before
    · exact served.oneAtATime other request found running
    · exact served.oneAtATime other late before unfinished
  inTurn late member := by
    obtain ⟨other, otherFound⟩ := List.getElem?_of_mem member
    by_cases same : other = id
    · rcases setRequest_cases otherFound with ⟨_, rfl⟩ | before
      · exact inTurn
      · have bound := (List.getElem?_eq_some_iff.mp found).1
        simp only [AuthState.setRequest, same, List.getElem?_set_self bound] at otherFound
        exact Option.some.inj otherFound ▸ inTurn
    · rcases setRequest_cases otherFound with ⟨isSame, _⟩ | before
      · exact absurd isSame same
      · exact .of_isFree (Phase.isFree_of_isOver
          (served.oneAtATime.isOver found running before same))
  cached key entry stored isAdmin live := by
    have bound := (List.getElem?_eq_some_iff.mp found).1
    exact (cached key entry stored isAdmin live).imp_right fun logsOut =>
      ⟨stepped, List.mem_of_getElem? (List.getElem?_set_self bound), logsOut⟩

theorem isOver_abort (request : Request) : request.abort.phase.isOver = true := by
  obtain ⟨phase, finished, same⟩ := abort_cases request
  rw [same]
  exact finished

/-- Contexts only get older. -/
theorem NoneLive.advance {principal : Principal} (noneLive : NoneLive server principal)
    (elapsed : Nat)
    : NoneLive { server with now := server.now + elapsed } principal :=
  fun key entry stored owned =>
    AuthTokenCacheEntry.isDead_mono (Int.le_add_of_nonneg_right (Int.natCast_nonneg elapsed))
      (noneLive key entry stored owned)

theorem EndsContexts.advance {userId : Int} {phase : Phase}
    (ends : EndsContexts server userId phase) (elapsed : Nat)
    : EndsContexts { server with now := server.now + elapsed } userId phase := by
  cases phase with
  | handle current =>
      cases current with
      | replaceRoles _ _ | listTokens _ => exact ends
      | readResponse | deleteUser => exact NoneLive.advance ends elapsed
      | invalidateTokens tokens =>
          intro key entry stored owned live
          refine ends key entry stored owned (Bool.eq_false_iff.mpr fun dead => ?_)
          have stillDead : entry.isDead (server.now + elapsed) server.cache.ttl = true :=
            AuthTokenCacheEntry.isDead_mono
              (Int.le_add_of_nonneg_right (Int.natCast_nonneg elapsed)) dead
          rw [live] at stillDead
          cases stillDead
      | _ => trivial
  | _ => trivial

/-- What holds between the steps of requests that are served one after the other. -/
theorem ServedInTurn.step (ledger : TokenLedger libraries state) (served : ServedInTurn state)
    {action : AuthAction} (taken : stepAuth libraries state action = some next)
    (sequential : Sequential state action next)
    : ServedInTurn next := by
  cases action with
  | start endpoint headers =>
      simp only [stepAuth] at taken
      split at taken
      · cases taken
        refine ⟨fun id request found unfinished => ?_, fun request member => ?_,
          fun key entry stored isAdmin live => .inl (served.ofIdle sequential stored isAdmin live)⟩
        · rcases arrived_cases found with before | ⟨isNew, _⟩
          · have finished := isOver_of_isIdle sequential (List.mem_of_getElem? before)
            rw [unfinished] at finished
            cases finished
          · rw [isNew, List.length_append, List.length_singleton]
        · rcases List.mem_append.mp member with before | new
          · exact .of_isFree (Phase.isFree_of_isOver (isOver_of_isIdle sequential before))
          · obtain rfl := List.mem_singleton.mp new
            refine .of_isFree ?_
            rcases (startRequestOf_cases endpoint headers).2 with start | ⟨lookup, isLookup⟩
            · exact Phase.isFree_of_isStart start
            · rw [isLookup]
              rfl
      · cases taken
  | act id entropy =>
      obtain ⟨request, found, taken⟩ := Option.bind_eq_some_iff.mp taken
      obtain ⟨⟨server, stepped⟩, steps, taken⟩ := Option.bind_eq_some_iff.mp taken
      cases taken
      have step := requestStep_cases steps
      have running := requestStepped_running step
      have member := List.mem_of_getElem? found
      have own := served.inTurn request member
      have cached := served.ofRunning found running
      exact served.setRequest server found running (own.step ledger.server cached step)
        (cached.step ledger.server (ledger.requests request member) own step)
  | fail id message =>
      obtain ⟨request, found, taken⟩ := Option.bind_eq_some_iff.mp taken
      split at taken
      · rename_i isStatement
        cases taken
        have running : request.phase.isOver = false := by
          cases isPhase : request.phase with
          | responded _ | aborted =>
              rw [isPhase] at isStatement
              cases isStatement
          | _ => rfl
        refine served.setRequest state.server found running (.of_isFree rfl) ?_
        refine (served.ofRunning found running).keep ?_ (fun _ _ same => same) rfl rfl
          fun _ _ _ _ _ unrevoked => unrevoked
        intro isPhase
        rw [isPhase] at isStatement
        cases isStatement
      · cases taken
  | abort id => cases sequential
  | advance elapsed =>
      cases taken
      have later : state.server.now ≤ state.server.now + elapsed :=
        Int.le_add_of_nonneg_right (Int.natCast_nonneg elapsed)
      have wasLive {entry : AuthTokenCacheEntry}
          (live : entry.isDead (state.server.now + elapsed) state.server.cache.ttl = false)
          : entry.isDead state.server.now state.server.cache.ttl = false := by
        refine Bool.eq_false_iff.mpr fun dead => ?_
        rw [AuthTokenCacheEntry.isDead_mono later dead] at live
        cases live
      refine ⟨served.oneAtATime, fun request member => ?_, fun key entry stored isAdmin live =>
        (served.cached key entry stored isAdmin (wasLive live)).imp_left
          fun unrevoked => ⟨unrevoked.stored, unrevoked.unrevoked⟩⟩
      have own := served.inTurn request member
      refine ⟨fun context pending => ?_, fun userId managed => ?_, own.deactivated⟩
      · have unrevoked := own.pending context pending
        exact ⟨unrevoked.stored, unrevoked.unrevoked⟩
      · exact (own.managed userId managed).advance elapsed
  | changeRoles roles adminUserRoles rolePermissions keys =>
      cases taken
      have shrinks := CacheShrinks.invalidateKeys (fun key => key) keys state.server.cache
      refine ⟨served.oneAtATime, fun request member =>
        .of_isFree (Phase.isFree_of_isOver (isOver_of_isIdle sequential member)),
        fun key entry stored isAdmin live => ?_⟩
      have sameLive : entry.isDead state.server.now state.server.cache.ttl = false := by
        rw [← shrinks.ttl]
        exact live
      have unrevoked := served.ofIdle sequential (shrinks.peek key entry stored) isAdmin sameLive
      exact .inl ⟨unrevoked.stored, unrevoked.unrevoked⟩
  | restart =>
      cases taken
      refine ⟨fun id request found unfinished => ?_, fun request member => ?_,
        fun key entry stored => (by cases stored)⟩
      · have finished : request.phase.isOver = true := by
          rw [List.getElem?_map, Option.map_eq_some_iff] at found
          obtain ⟨before, _, rfl⟩ := found
          exact isOver_abort before
        rw [unfinished] at finished
        cases finished
      · obtain ⟨before, _, rfl⟩ := List.mem_map.mp member
        exact .of_isFree (Phase.isFree_of_isOver (isOver_abort before))

/-- Serving requests one after the other is one way to serve them. -/
theorem ReachableInTurn.reachable (reachable : ReachableInTurn libraries state)
    : ReachableAuth libraries state := by
  obtain ⟨start, initial, path⟩ := reachable
  exact ⟨start, initial, path.lift id fun _ _ taken => taken.next⟩

theorem servedInTurn_of_reachable (collisionFree : libraries.CollisionFree)
    (reachable : ReachableInTurn libraries state)
    : ServedInTurn state := by
  obtain ⟨start, initial, path⟩ := reachable
  exact (Reachable.along
    (fun _ _ _ reachable served taken sequential =>
      served.step (tokenLedger_of_reachable collisionFree reachable) taken sequential)
    (.start initial) (.initial initial) path).2

end AlonSentinel.System
