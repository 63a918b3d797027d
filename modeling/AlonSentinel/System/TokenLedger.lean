import AlonSentinel.System.AuthSystem

/-! The record of issued tokens. Every stored token, every cached context and every context of a
request belongs to one issued token, under its own hash, prefix and cache key; and different
issued tokens differ in their text and in their id.
-/

namespace AlonSentinel.System

open Api
open Auth
open Domain
open KeyedTable
open TransitionSystem

------------------------------------------------------------
-- What a step does to the stored tokens
------------------------------------------------------------

/-- A stored token is the row of an issued one. -/
structure Describes (libraries : AuthLibraries) (issued : IssuedToken)
    (kind : PrincipalKind) (row : StoredToken)
    : Prop where
  owner : issued.owner = ⟨kind, row.ownerId⟩
  id : row.id = issued.tokenId
  tokenHash : row.tokenHash = libraries.hashToken issued.rawToken
  tokenPrefix : row.tokenPrefix = Auth.tokenPrefix issued.rawToken
  expiresAt : row.expiresAt = issued.expiresAt

/-- A row is another one, but for a revocation. -/
structure KeepsToken (stored row : StoredToken) : Prop where
  same : { row with revokedAt := stored.revokedAt, revokedReason := stored.revokedReason } = stored
  revoked : stored.revokedAt.isSome = true → row.revokedAt.isSome = true

/-- No token is added, and none is changed but for a revocation. -/
structure TokensKept (before after : AuthDatabase) : Prop where
  rows
    : ∀ kind row,
        row ∈ (after.tokens kind).rows
        → ∃ stored ∈ (before.tokens kind).rows, KeepsToken stored row
  nextId : ∀ kind, (after.tokens kind).nextId = (before.tokens kind).nextId

/-- One token is issued. -/
structure IssuesToken (libraries : AuthLibraries) (before after : AuthServer)
    (token : IssuedToken)
    : Prop where
  issued : after.issued = before.issued ++ [token]
  used : libraries.usesToken token.rawToken = true
  generated : ∃ bytes, token.rawToken = generateRawToken bytes
  isNew : ∀ other ∈ before.issued, other.rawToken ≠ token.rawToken
  tokenId : token.tokenId = (before.db.tokens token.owner.kind).nextId
  rows
    : ∀ kind row,
        row ∈ (after.db.tokens kind).rows
        → row ∈ (before.db.tokens kind).rows ∨ Describes libraries token kind row
  nextId : ∀ kind, (before.db.tokens kind).nextId ≤ (after.db.tokens kind).nextId
  belowNext : token.tokenId < (after.db.tokens token.owner.kind).nextId

variable {libraries : AuthLibraries} {server after : AuthServer} {request : Request}

theorem KeepsToken.refl (row : StoredToken) : KeepsToken row row := ⟨rfl, id⟩

theorem TokensKept.of_eq {before after : AuthDatabase} (same : after.tokens = before.tokens)
    : TokensKept before after where
  rows kind row stored := ⟨row, same ▸ stored, .refl row⟩
  nextId kind := by rw [same]

/-- Replacing one table by one that keeps some of its rows. -/
theorem TokensKept.replace {before after : AuthDatabase} (kind : PrincipalKind)
    {table : SerialTable StoredToken StoredToken.id}
    (tokens : after.tokens = Function.update before.tokens kind table)
    (rows : ∀ row ∈ table.rows, ∃ stored ∈ (before.tokens kind).rows, KeepsToken stored row)
    (nextId : table.nextId = (before.tokens kind).nextId)
    : TokensKept before after where
  rows other row stored := by
    rw [tokens, Function.update_apply] at stored
    split at stored
    · rename_i same
      exact same ▸ rows row stored
    · exact ⟨row, stored, .refl row⟩
  nextId other := by
    rw [tokens, Function.update_apply]
    split
    · rename_i same
      exact same ▸ nextId
    · rfl

theorem TokensKept.delete {before after : AuthDatabase} (kind : PrincipalKind)
    (condition : StoredToken → Bool)
    (tokens
      : after.tokens
        = Function.update before.tokens kind ((before.tokens kind).delete condition))
    : TokensKept before after :=
  .replace kind tokens (fun row stored => ⟨row, (List.mem_filter.mp stored).1, .refl row⟩) rfl

theorem TokensKept.revoke (db : AuthDatabase) (kind : PrincipalKind) (now : Timestamp) (id : Int)
    (reason : Option String)
    : TokensKept db (revokeToken db kind now id reason) := by
  refine .replace kind rfl (fun row stored => ?_) rfl
  obtain ⟨token, isStored, rfl⟩ := List.mem_map.mp stored
  refine ⟨token, isStored, ?_⟩
  by_cases revoked : token.id = id
  · rw [if_pos (decide_eq_true revoked)]
    exact ⟨rfl, fun _ => rfl⟩
  · rw [if_neg (by simpa using revoked)]
    exact .refl token

/-- A step keeps the stored tokens and the record of them, or it issues one token. -/
theorem ServerEffect.tokens (effect : ServerEffect libraries server request after)
    : TokensKept server.db after.db ∧ after.issued = server.issued
      ∨ after.cache = server.cache ∧ ∃ token, IssuesToken libraries server after token := by
  cases effect with
  | same => exact .inl ⟨.of_eq rfl, rfl⟩
  | shrunk shrinks => exact .inl ⟨.of_eq rfl, rfl⟩
  | inserted pending => exact .inl ⟨.of_eq rfl, rfl⟩
  | revoked kind id reason => exact .inl ⟨.revoke _ kind _ id reason, rfl⟩
  | createdUser endpoint phase email created =>
      obtain ⟨_, _, rfl, _, _⟩ := createAdminUserWithRoles_ok created
      exact .inl ⟨.of_eq rfl, rfl⟩
  | updatedUser endpoint phase updated =>
      obtain ⟨_, rfl⟩ := updateAdminUser_ok updated
      exact .inl ⟨.of_eq rfl, rfl⟩
  | deletedUser endpoint phase deleted =>
      obtain ⟨_, rfl⟩ := deleteAdminUser_some deleted
      exact .inl ⟨.delete .adminUser _ rfl, rfl⟩
  | createdClient created =>
      obtain ⟨_, rfl⟩ := createApiClient_ok created
      exact .inl ⟨.of_eq rfl, rfl⟩
  | setClient isSet =>
      obtain ⟨_, rfl⟩ := setApiClient_some isSet
      exact .inl ⟨.of_eq rfl, rfl⟩
  | deletedClient deleted =>
      obtain ⟨_, rfl⟩ := deleteApiClient_true deleted
      exact .inl ⟨.delete .apiClient _ rfl, rfl⟩
  | others adminUsers apiClients tokens => exact .inl ⟨.of_eq tokens, rfl⟩
  | @issued owner bytes db stored used isNew =>
      obtain ⟨table, rfl, rows, nextId⟩ := createToken_ok stored
      refine .inr ⟨rfl, _, rfl, used, ⟨bytes, rfl⟩, isNew, rfl, fun kind row isRow => ?_,
        fun kind => ?_, ?_⟩
      · by_cases same : kind = owner.kind
        · subst same
          rw [AuthDatabase.setTokens_self, rows] at isRow
          rcases List.mem_append.mp isRow with before | new
          · exact .inl before
          · rw [List.mem_singleton.mp new]
            exact .inr ⟨rfl, rfl, rfl, rfl, rfl⟩
        · rw [AuthDatabase.setTokens_of_ne same] at isRow
          exact .inl isRow
      · by_cases same : kind = owner.kind
        · subst same
          rw [AuthDatabase.setTokens_self, nextId]
          exact (Int.lt_succ _).le
        · rw [AuthDatabase.setTokens_of_ne same]
      · rw [AuthDatabase.setTokens_self, nextId]
        exact Int.lt_succ _

------------------------------------------------------------
-- The record
------------------------------------------------------------

/-- Everything that is stored or cached belongs to an issued token. -/
structure ServerLedger (libraries : AuthLibraries) (server : AuthServer) : Prop where
  used : ∀ token ∈ server.issued, libraries.usesToken token.rawToken = true
  generated : ∀ token ∈ server.issued, ∃ bytes, token.rawToken = generateRawToken bytes
  textDetermines
    : ∀ first ∈ server.issued, ∀ second ∈ server.issued,
        first.rawToken = second.rawToken
        → first = second
  idDetermines
    : ∀ first ∈ server.issued, ∀ second ∈ server.issued,
        first.owner.kind = second.owner.kind
        → first.tokenId = second.tokenId
        → first = second
  belowNext : ∀ token ∈ server.issued, token.tokenId < (server.db.tokens token.owner.kind).nextId
  rows
    : ∀ kind row,
        row ∈ (server.db.tokens kind).rows
        → ∃ token ∈ server.issued, Describes libraries token kind row
  cached
    : ∀ key entry,
        server.cache.peek key = some entry
        → ∃ token ∈ server.issued,
            Describes libraries token entry.context.kind entry.context.token
            ∧ buildCacheKey libraries token.rawToken = some key
  ttl : server.cache.ttl = seconds 30
  enabled : server.cache.entries.isSome = true

/-- The token with an id is revoked, if it is stored at all. -/
def TokenRevoked (db : AuthDatabase) (kind : PrincipalKind) (id : Int) : Prop :=
  ∀ row ∈ (db.tokens kind).rows, row.id = id → row.revokedAt.isSome = true

/-- A request that has revoked its token, and has not yet ended the cached context of it. -/
def Phase.isRevoking : Phase → Bool
  | .handle .auditRevocation | .handle .invalidate => true
  | _ => false

/-- The contexts of a request belong to the token that it carries. -/
structure RequestLedger (libraries : AuthLibraries) (server : AuthServer) (request : Request)
    : Prop where
  used : libraries.usesToken request.rawToken = true
  contexts
    : ∀ context,
        request.context = some context ∨ request.phase = .insertCache context
        → ∃ token ∈ server.issued,
            Describes libraries token context.kind context.token
            ∧ token.rawToken = request.rawToken
  revoked
    : Phase.isRevoking request.phase = true
      → ∃ context,
          request.context = some context
          ∧ TokenRevoked server.db context.kind context.token.id

theorem Describes.keeps {token : IssuedToken} {kind : PrincipalKind}
    {stored row : StoredToken} (describes : Describes libraries token kind stored)
    (kept : KeepsToken stored row)
    : Describes libraries token kind row := by
  have same := kept.same
  rw [← same] at describes
  exact ⟨describes.owner, describes.id, describes.tokenHash, describes.tokenPrefix,
    describes.expiresAt⟩

/-- The record survives what adds no token and caches nothing new. -/
theorem ServerLedger.keep (ledger : ServerLedger libraries server)
    (tokens : TokensKept server.db after.db) (issued : after.issued = server.issued)
    (cached
      : ∀ key entry,
          after.cache.peek key = some entry
          → ∃ token ∈ server.issued,
              Describes libraries token entry.context.kind entry.context.token
              ∧ buildCacheKey libraries token.rawToken = some key)
    (ttl : after.cache.ttl = server.cache.ttl)
    (enabled : after.cache.entries.isSome = server.cache.entries.isSome)
    : ServerLedger libraries after where
  used := issued ▸ ledger.used
  generated := issued ▸ ledger.generated
  textDetermines := issued ▸ ledger.textDetermines
  idDetermines := issued ▸ ledger.idDetermines
  belowNext token member := by
    rw [tokens.nextId]
    exact ledger.belowNext token (issued ▸ member)
  rows kind row isRow := by
    obtain ⟨stored, isStored, kept⟩ := tokens.rows kind row isRow
    obtain ⟨token, member, describes⟩ := ledger.rows kind stored isStored
    exact ⟨token, issued ▸ member, describes.keeps kept⟩
  cached key entry found := issued ▸ cached key entry found
  ttl := ttl.trans ledger.ttl
  enabled := enabled.trans ledger.enabled

/-- The record survives the issue of a token. -/
theorem ServerLedger.issue (ledger : ServerLedger libraries server) {token : IssuedToken}
    (issues : IssuesToken libraries server after token) (cache : after.cache = server.cache)
    : ServerLedger libraries after := by
  have isIssued (other : IssuedToken) (member : other ∈ after.issued)
      : other ∈ server.issued ∨ other = token := by
    rw [issues.issued] at member
    exact (List.mem_append.mp member).imp id List.mem_singleton.mp
  have old {other : IssuedToken} (member : other ∈ server.issued) : other ∈ after.issued := by
    rw [issues.issued]
    exact List.mem_append_left _ member
  have new : token ∈ after.issued := by
    rw [issues.issued]
    exact List.mem_append_right _ (List.mem_singleton_self token)
  constructor
  · intro other member
    rcases isIssued other member with before | rfl
    · exact ledger.used other before
    · exact issues.used
  · intro other member
    rcases isIssued other member with before | rfl
    · exact ledger.generated other before
    · exact issues.generated
  · intro first isFirst second isSecond same
    rcases isIssued first isFirst with firstOld | rfl
    · rcases isIssued second isSecond with secondOld | rfl
      · exact ledger.textDetermines first firstOld second secondOld same
      · exact absurd same (issues.isNew first firstOld)
    · rcases isIssued second isSecond with secondOld | rfl
      · exact absurd same.symm (issues.isNew second secondOld)
      · rfl
  · intro first isFirst second isSecond sameKind sameId
    rcases isIssued first isFirst with firstOld | rfl
    · rcases isIssued second isSecond with secondOld | rfl
      · exact ledger.idDetermines first firstOld second secondOld sameKind sameId
      · have below := ledger.belowNext first firstOld
        rw [sameKind, sameId, issues.tokenId] at below
        exact absurd below (lt_irrefl _)
    · rcases isIssued second isSecond with secondOld | rfl
      · have below := ledger.belowNext second secondOld
        rw [← sameKind, ← sameId, issues.tokenId] at below
        exact absurd below (lt_irrefl _)
      · rfl
  · intro other member
    rcases isIssued other member with before | rfl
    · exact (ledger.belowNext other before).trans_le (issues.nextId _)
    · exact issues.belowNext
  · intro kind row isRow
    rcases issues.rows kind row isRow with before | describes
    · obtain ⟨other, member, describes⟩ := ledger.rows kind row before
      exact ⟨other, old member, describes⟩
    · exact ⟨token, new, describes⟩
  · intro key entry found
    obtain ⟨other, member, described⟩ := ledger.cached key entry (cache ▸ found)
    exact ⟨other, old member, described⟩
  · exact cache ▸ ledger.ttl
  · exact cache ▸ ledger.enabled

theorem TokenRevoked.keep {before after : AuthDatabase} {kind : PrincipalKind} {id : Int}
    (revoked : TokenRevoked before kind id) (tokens : TokensKept before after)
    : TokenRevoked after kind id := by
  intro row isRow isId
  obtain ⟨stored, isStored, kept⟩ := tokens.rows kind row isRow
  have sameId : stored.id = row.id := by rw [← kept.same]
  exact kept.revoked (revoked stored isStored (sameId.trans isId))

/-- A token that is issued has a new id. -/
theorem TokenRevoked.issue {kind : PrincipalKind} {id : Int} {token : IssuedToken}
    (revoked : TokenRevoked server.db kind id)
    (issues : IssuesToken libraries server after token)
    (below : id < (server.db.tokens kind).nextId)
    : TokenRevoked after.db kind id := by
  intro row isRow isId
  rcases issues.rows kind row isRow with before | describes
  · exact revoked row before isId
  · have same : token.owner.kind = kind := congrArg Principal.kind describes.owner
    have new : id = (server.db.tokens kind).nextId := by
      rw [← isId, describes.id, issues.tokenId, same]
    exact absurd below (new ▸ lt_irrefl _)

theorem tokenRevoked_revokeToken {db : AuthDatabase} {kind : PrincipalKind} {now : Timestamp}
    {id : Int} {reason : Option String}
    : TokenRevoked (revokeToken db kind now id reason) kind id := by
  intro row isRow isId
  rw [revokeToken, AuthDatabase.setTokens_self] at isRow
  obtain ⟨token, _, rfl⟩ := List.mem_map.mp isRow
  by_cases same : token.id = id
  · rw [if_pos (decide_eq_true same)]
    rfl
  · rw [if_neg (by simpa using same)] at isId
    exact absurd isId same

/-- The token of a context was issued. -/
theorem ServerLedger.contextBelowNext (ledger : ServerLedger libraries server)
    {kind : PrincipalKind} {row : StoredToken}
    (described : ∃ token ∈ server.issued, Describes libraries token kind row)
    : row.id < (server.db.tokens kind).nextId := by
  obtain ⟨token, member, describes⟩ := described
  have below := ledger.belowNext token member
  rwa [congrArg Principal.kind describes.owner, ← describes.id] at below

/-- The shared part of the record survives a step. -/
theorem ServerLedger.step (ledger : ServerLedger libraries server)
    (own : RequestLedger libraries server request)
    (effect : ServerEffect libraries server request after)
    : ServerLedger libraries after := by
  rcases effect.tokens with ⟨tokens, issued⟩ | ⟨cache, token, issues⟩
  · cases effect with
    | shrunk shrinks =>
        exact ledger.keep tokens issued
          (fun key entry found => ledger.cached key entry (shrinks.peek key entry found))
          shrinks.ttl shrinks.enabled
    | @inserted context pending =>
        refine ledger.keep tokens issued (fun key entry found => ?_)
          AuthTokenCache.insertBearerContext_settings.1
          AuthTokenCache.insertBearerContext_settings.2
        rcases AuthTokenCache.peek_of_peek_insertBearerContext found with ⟨isKey, rfl⟩ | before
        · obtain ⟨token, member, describes, same⟩ := own.contexts context (.inr pending)
          exact ⟨token, member, describes, same ▸ isKey⟩
        · exact ledger.cached key entry before
    | _ => exact ledger.keep tokens issued ledger.cached rfl rfl
  · exact ledger.issue issues cache

/-- The record of a request survives what issues no token. -/
theorem RequestLedger.keep (holds : RequestLedger libraries server request)
    (tokens : TokensKept server.db after.db) (issued : after.issued = server.issued)
    : RequestLedger libraries after request where
  used := holds.used
  contexts := issued ▸ holds.contexts
  revoked isRevoking := by
    obtain ⟨context, isContext, revoked⟩ := holds.revoked isRevoking
    exact ⟨context, isContext, revoked.keep tokens⟩

/-- The record of a request survives a step of any request. -/
theorem RequestLedger.effect (ledger : ServerLedger libraries server) {other : Request}
    (holds : RequestLedger libraries server other)
    (effect : ServerEffect libraries server request after)
    : RequestLedger libraries after other := by
  rcases effect.tokens with ⟨tokens, issued⟩ | ⟨_, new, issues⟩
  · exact holds.keep tokens issued
  · refine ⟨holds.used, fun context has => ?_, fun isRevoking => ?_⟩
    · obtain ⟨token, member, described⟩ := holds.contexts context has
      exact ⟨token, issues.issued ▸ List.mem_append_left _ member, described⟩
    · obtain ⟨context, isContext, revoked⟩ := holds.revoked isRevoking
      obtain ⟨token, member, describes, _⟩ := holds.contexts context (.inl isContext)
      exact ⟨context, isContext,
        revoked.issue issues (ledger.contextBelowNext ⟨token, member, describes⟩)⟩

------------------------------------------------------------
-- The steps of the request itself
------------------------------------------------------------

/-- A phase that carries nothing over from what the request has read. -/
def Phase.isPlain : Phase → Bool
  | .insertCache _ | .handle .auditRevocation | .handle .invalidate => false
  | _ => true

theorem Phase.notPending {phase : Phase} (plain : Phase.isPlain phase = true)
    {context : BearerTokenContext}
    : phase ≠ .insertCache context := by
  rintro rfl
  cases plain

theorem Phase.notRevoking {phase : Phase} (plain : Phase.isPlain phase = true)
    : Phase.isRevoking phase = false := by
  unfold isRevoking
  split
  · cases plain
  · cases plain
  · rfl

theorem Phase.isPlain_of_isOver {phase : Phase} (finished : phase.isOver = true)
    : Phase.isPlain phase = true := by
  cases phase with
  | responded _ | aborted => rfl
  | _ => cases finished

theorem Phase.isPlain_of_isStart {phase : Phase} (start : phase.IsStart)
    : Phase.isPlain phase = true := by
  cases phase with
  | handle current =>
      cases current with
      | auditRevocation | invalidate => cases start
      | _ => rfl
  | responded _ | aborted => rfl
  | _ => cases start

/-- A request that goes to a plain phase. -/
theorem RequestLedger.withPhase (holds : RequestLedger libraries server request) {phase : Phase}
    (plain : Phase.isPlain phase = true)
    : RequestLedger libraries server { request with phase } where
  used := holds.used
  contexts context has :=
    holds.contexts context (.inl (has.resolve_right (Phase.notPending plain)))
  revoked isRevoking := by
    rw [Phase.notRevoking plain] at isRevoking
    cases isRevoking

theorem RequestLedger.abort (holds : RequestLedger libraries server request)
    : RequestLedger libraries server request.abort := by
  unfold Request.abort
  split
  · exact holds
  · exact holds.withPhase rfl

/-- A request that is authenticated with a context of its own token. -/
theorem RequestLedger.authenticated (holds : RequestLedger libraries server request)
    {context : BearerTokenContext}
    (described
      : ∃ token ∈ server.issued,
          Describes libraries token context.kind context.token
          ∧ token.rawToken = request.rawToken)
    : RequestLedger libraries server (request.authenticated context) := by
  rcases request.authenticated_cases context with same | ⟨phase, failed, same⟩
  · have plain := Phase.isPlain_of_isStart
      (startHandler_isStart request.endpoint request.rawToken context)
    rw [same]
    refine ⟨holds.used, fun other has => ?_, fun isRevoking => ?_⟩
    · obtain rfl := Option.some.inj (has.resolve_right (Phase.notPending plain))
      exact described
    · rw [Phase.notRevoking plain] at isRevoking
      cases isRevoking
  · rw [same]
    exact holds.withPhase (Phase.isPlain_of_isOver (Phase.isOver_of_hasFailed failed))

/-- A context that was read belongs to the token that was presented. -/
theorem ServerLedger.described_of_read (ledger : ServerLedger libraries server)
    (collisionFree : libraries.CollisionFree) {rawToken : String}
    (used : libraries.usesToken rawToken = true) {context : BearerTokenContext}
    (read : ReadFrom server.db server.now (libraries.hashToken rawToken) context)
    : ∃ token ∈ server.issued,
        Describes libraries token context.kind context.token ∧ token.rawToken = rawToken := by
  obtain ⟨token, member, describes⟩ := ledger.rows _ _ read.stored
  exact ⟨token, member, describes,
    collisionFree.injective _ _ (ledger.used token member) used
      (describes.tokenHash.symm.trans read.tokenHash)⟩

/-- A context that is cached for a token belongs to that token. -/
theorem ServerLedger.described_of_cached (ledger : ServerLedger libraries server)
    (collisionFree : libraries.CollisionFree) {rawToken : String}
    (used : libraries.usesToken rawToken = true) {key : AuthTokenCacheKey}
    {entry : AuthTokenCacheEntry} (isKey : buildCacheKey libraries rawToken = some key)
    (stored : server.cache.peek key = some entry)
    : ∃ token ∈ server.issued,
        Describes libraries token entry.context.kind entry.context.token
        ∧ token.rawToken = rawToken := by
  obtain ⟨token, member, describes, sameKey⟩ := ledger.cached key entry stored
  exact ⟨token, member, describes,
    buildCacheKey_injective collisionFree (ledger.used token member) used sameKey isKey⟩

/-- The record of a request survives a step of its own. -/
theorem RequestLedger.step (collisionFree : libraries.CollisionFree)
    (ledger : ServerLedger libraries server) (own : RequestLedger libraries server request)
    {stepped : Request} {entropy : Entropy}
    (taken : RequestStepped libraries server request entropy after stepped)
    : RequestLedger libraries after stepped := by
  have effect := requestStepped_effect taken
  cases taken with
  | @lookedUp lookup phase =>
      refine RequestLedger.effect ledger ?_ effect
      cases found
        : (lookup.cached libraries server.cache server.now request.rawToken).1 with
      | none =>
          obtain ⟨next, isNext, same⟩ := request.afterLookup_none lookup
          rw [same]
          rcases isNext with rfl | rfl <;> exact own.withPhase rfl
      | some context =>
          obtain ⟨key, entry, isKey, stored, _, rfl⟩ := TokenLookup.of_cached found
          exact own.authenticated
            (ledger.described_of_cached collisionFree own.used isKey stored)
  | foundKind | rejected => exact own.withPhase rfl
  | read phase ok =>
      refine ⟨own.used, fun context has => ?_, fun isRevoking => by cases isRevoking⟩
      rcases has with isContext | pending
      · exact own.contexts context (.inl isContext)
      · cases pending
        exact ledger.described_of_read collisionFree own.used (authenticateTokenOfKind_ok ok).2
  | inserted pending =>
      exact RequestLedger.effect ledger (own.authenticated (own.contexts _ (.inr pending))) effect
  | handled phase handles =>
      have carried := RequestLedger.effect ledger own effect
      have kept (next : HandlerPhase) (context : BearerTokenContext)
          (has
            : request.context = some context
              ∨ Phase.handle next = .insertCache context)
          : request.context = some context := by
        rcases has with isContext | pending
        · exact isContext
        · cases pending
      cases handlerStep_cases handles with
      | revokedToken endpoint isContext =>
          exact ⟨own.used, fun context has => own.contexts context (.inl (kept _ context has)),
            fun _ => ⟨_, isContext, tokenRevoked_revokeToken⟩⟩
      | loggedOut endpoint isContext =>
          exact ⟨own.used, fun context has => own.contexts context (.inl (kept _ context has)),
            fun _ => ⟨_, isContext, tokenRevoked_revokeToken⟩⟩
      | audited =>
          exact ⟨own.used, fun context has => own.contexts context (.inl (kept _ context has)),
            fun _ => own.revoked (by rw [phase]; rfl)⟩
      | _ => exact carried.withPhase rfl

------------------------------------------------------------
-- The steps of the system
------------------------------------------------------------

/-- Whatever is stored, cached or held by a request belongs to an issued token. -/
structure TokenLedger (libraries : AuthLibraries) (state : AuthState) : Prop where
  server : ServerLedger libraries state.server
  requests : ∀ request ∈ state.requests, RequestLedger libraries state.server request

theorem TokenLedger.initial {state : AuthState} (initial : state.IsInitial)
    : TokenLedger libraries state where
  server := by
    have none : ∀ {token}, token ∉ state.server.issued := by
      rw [initial.issued]
      exact List.not_mem_nil
    refine ⟨fun _ member => (none member).elim, fun _ member => (none member).elim,
      fun _ member => (none member).elim, fun _ member => (none member).elim,
      fun _ member => (none member).elim, fun kind row isRow => ?_, fun key entry found => ?_,
      ?_, ?_⟩
    · rw [initial.tokens] at isRow
      exact (List.not_mem_nil isRow).elim
    · rw [initial.cache, AuthTokenCache.peek_new] at found
      cases found
    · rw [initial.cache]
      rfl
    · rw [initial.cache]
      rfl
  requests request member := by
    rw [initial.requests] at member
    exact (List.not_mem_nil member).elim

theorem TokenLedger.step (collisionFree : libraries.CollisionFree) {state next : AuthState}
    {action : AuthAction} (ledger : TokenLedger libraries state)
    (taken : stepAuth libraries state action = some next)
    : TokenLedger libraries next := by
  cases action with
  | start endpoint headers =>
      simp only [stepAuth] at taken
      split at taken
      · rename_i used
        cases taken
        refine ⟨ledger.server, fun request member => ?_⟩
        rcases List.mem_append.mp member with before | new
        · exact ledger.requests request before
        · obtain rfl := List.mem_singleton.mp new
          obtain ⟨noContext, arrives⟩ := startRequestOf_cases endpoint headers
          have plain : Phase.isPlain (startRequestOf endpoint headers).phase = true := by
            rcases arrives with start | ⟨lookup, isLookup⟩
            · exact Phase.isPlain_of_isStart start
            · rw [isLookup]
              rfl
          refine ⟨used, fun context has => ?_, fun isRevoking => ?_⟩
          · rcases has with isContext | pending
            · rw [noContext] at isContext
              cases isContext
            · exact absurd pending (Phase.notPending plain)
          · rw [Phase.notRevoking plain] at isRevoking
            cases isRevoking
      · cases taken
  | act id entropy =>
      obtain ⟨request, found, taken⟩ := Option.bind_eq_some_iff.mp taken
      obtain ⟨⟨server, stepped⟩, steps, taken⟩ := Option.bind_eq_some_iff.mp taken
      cases taken
      have own := ledger.requests request (List.mem_of_getElem? found)
      have step := requestStep_cases steps
      refine ⟨ledger.server.step own (requestStepped_effect step), fun other member => ?_⟩
      rcases List.mem_or_eq_of_mem_set member with before | rfl
      · exact (ledger.requests other before).effect ledger.server (requestStepped_effect step)
      · exact own.step collisionFree ledger.server step
  | fail id message =>
      obtain ⟨request, found, taken⟩ := Option.bind_eq_some_iff.mp taken
      have own := ledger.requests request (List.mem_of_getElem? found)
      split at taken
      · cases taken
        refine ⟨ledger.server, fun other member => ?_⟩
        rcases List.mem_or_eq_of_mem_set member with before | rfl
        · exact ledger.requests other before
        · exact own.withPhase rfl
      · cases taken
  | abort id =>
      obtain ⟨request, found, taken⟩ := Option.bind_eq_some_iff.mp taken
      have own := ledger.requests request (List.mem_of_getElem? found)
      cases taken
      refine ⟨ledger.server, fun other member => ?_⟩
      rcases List.mem_or_eq_of_mem_set member with before | rfl
      · exact ledger.requests other before
      · exact own.abort
  | advance elapsed =>
      cases taken
      exact ⟨ledger.server.keep (.of_eq rfl) rfl ledger.server.cached rfl rfl,
        fun request member => (ledger.requests request member).keep (.of_eq rfl) rfl⟩
  | changeRoles roles adminUserRoles rolePermissions keys =>
      cases taken
      have shrinks := CacheShrinks.invalidateKeys id keys state.server.cache
      exact ⟨ledger.server.keep (.of_eq rfl) rfl
          (fun key entry found => ledger.server.cached key entry (shrinks.peek key entry found))
          shrinks.ttl shrinks.enabled,
        fun request member => (ledger.requests request member).keep (.of_eq rfl) rfl⟩
  | restart =>
      cases taken
      refine ⟨ledger.server.keep (.of_eq rfl) rfl (fun key entry found => by cases found)
          ledger.server.ttl.symm ledger.server.enabled.symm, fun request member => ?_⟩
      obtain ⟨before, isBefore, rfl⟩ := List.mem_map.mp member
      exact (ledger.requests before isBefore).abort.keep (.of_eq rfl) rfl

/-- A step of the system keeps the stored tokens and the record of them, or issues a token. -/
theorem stepAuth_tokens {state next : AuthState} {action : AuthAction}
    (taken : stepAuth libraries state action = some next)
    : TokensKept state.server.db next.server.db ∧ next.server.issued = state.server.issued
      ∨ ∃ token, IssuesToken libraries state.server next.server token := by
  cases action with
  | start endpoint headers =>
      simp only [stepAuth] at taken
      split at taken
      · cases taken
        exact .inl ⟨.of_eq rfl, rfl⟩
      · cases taken
  | act id entropy =>
      obtain ⟨request, _, taken⟩ := Option.bind_eq_some_iff.mp taken
      obtain ⟨⟨server, stepped⟩, steps, taken⟩ := Option.bind_eq_some_iff.mp taken
      cases taken
      exact (requestStepped_effect (requestStep_cases steps)).tokens.imp (fun kept => kept)
        And.right
  | fail id message =>
      obtain ⟨request, _, taken⟩ := Option.bind_eq_some_iff.mp taken
      split at taken
      · cases taken
        exact .inl ⟨.of_eq rfl, rfl⟩
      · cases taken
  | abort id =>
      obtain ⟨request, _, taken⟩ := Option.bind_eq_some_iff.mp taken
      cases taken
      exact .inl ⟨.of_eq rfl, rfl⟩
  | advance elapsed | changeRoles roles adminUserRoles rolePermissions keys | restart =>
      cases taken
      exact .inl ⟨.of_eq rfl, rfl⟩

/-- The record of issued tokens only grows. -/
theorem stepAuth_issued {state next : AuthState} {action : AuthAction}
    (taken : stepAuth libraries state action = some next)
    : state.server.issued ⊆ next.server.issued := by
  rcases stepAuth_tokens taken with ⟨_, issued⟩ | ⟨token, issues⟩
  · exact issued ▸ List.Subset.refl _
  · exact issues.issued ▸ List.subset_append_left _ _

theorem tokenLedger_of_reachable (collisionFree : libraries.CollisionFree) {state : AuthState}
    (reachable : ReachableAuth libraries state)
    : TokenLedger libraries state :=
  reachable.invariant (TokenLedger libraries) (fun _ initial => .initial initial)
    fun _ _ _ _ ledger taken => ledger.step collisionFree taken

end AlonSentinel.System
