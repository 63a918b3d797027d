import AlonSentinel.System.EndedTokens

/-! Revocation against requests in progress. A request that has read its token before the
revocation may still cache what it has read afterwards, and then the cache lets the revoked token
in again.
-/

namespace AlonSentinel.System

open Api
open Auth
open Domain
open Relation
open TransitionSystem

variable {libraries : AuthLibraries} {server : AuthServer} {request : Request}
  {state revoked next : AuthState} {action : AuthAction} {id : Nat} {token : IssuedToken}

/-- The handlers that revoke the token of the request itself. -/
def revokesOwnToken : Endpoint → Bool
  | .revokeToken _ | .logoutAdmin => true
  | _ => false

/-- No request that starts from now on is ever authenticated with a token. -/
def RevocationIsFinal (libraries : AuthLibraries) (rawToken : String) (revoked : AuthState)
    : Prop :=
  ∀ later,
    ReflTransGen (Next (stepAuth libraries)) revoked later
    → NoneAuthenticated rawToken revoked.requests.length later

------------------------------------------------------------
-- Revoked tokens
------------------------------------------------------------

/-- The database rejects a revoked token. -/
theorem unreadable_of_revoked (collisionFree : libraries.CollisionFree)
    (ledger : ServerLedger libraries server) (isIssued : token ∈ server.issued)
    (isRevoked : TokenRevoked server.db token.owner.kind token.tokenId)
    : Unreadable libraries token.rawToken server := by
  intro context read
  obtain ⟨other, member, describes, same⟩ :=
    ledger.described_of_read collisionFree (ledger.used token isIssued) read
  obtain rfl := ledger.textDetermines other member token isIssued same
  have sameKind : other.owner.kind = context.kind := congrArg Principal.kind describes.owner
  have revokedAt := isRevoked context.token (sameKind ▸ read.stored) describes.id
  rw [read.unrevoked] at revokedAt
  cases revokedAt

/-- A revoked token stays revoked. -/
theorem tokenRevoked_step (ledger : TokenLedger libraries state)
    (isIssued : token ∈ state.server.issued)
    (isRevoked : TokenRevoked state.server.db token.owner.kind token.tokenId)
    (taken : stepAuth libraries state action = some next)
    : TokenRevoked next.server.db token.owner.kind token.tokenId := by
  rcases stepAuth_tokens taken with ⟨kept, _⟩ | ⟨_, issues⟩
  · exact isRevoked.keep kept
  · exact isRevoked.issue issues (ledger.server.belowNext token isIssued)

/-- The last step of a revocation ends the cached context of the token. -/
theorem revocation_last {after : AuthServer} {current : HandlerPhase}
    (revokes : revokesOwnToken request.endpoint = true)
    (runs : request.endpoint.runs current = true)
    (steps : HandlerStepped libraries server request current after (.responded (.ok ())))
    : current = .invalidate
      ∧ (after
          = { server with cache := server.cache.invalidateRawToken libraries request.rawToken }
        ∨ ∃ context,
            request.context = some context
            ∧ after
              = { server with
                  cache :=
                    server.cache.invalidateHashedToken context.token.tokenPrefix
                      context.token.tokenHash }) := by
  cases steps with
  | endedRawToken => exact ⟨rfl, .inl rfl⟩
  | endedHashedToken _ isContext => exact ⟨rfl, .inr ⟨_, isContext, rfl⟩⟩
  | _ =>
      revert runs revokes
      cases request.endpoint <;> simp [Endpoint.runs, revokesOwnToken]

/-- Nothing is cached for a token under a key that was just removed. -/
theorem noneCached_invalidateKey {rawToken : String} {key : AuthTokenCacheKey}
    (isKey : ∀ other, buildCacheKey libraries rawToken = some other → other = key)
    : NoneCached libraries rawToken { server with cache := server.cache.invalidateKey key } := by
  intro other entry isOther found
  have left : (server.cache.invalidateKey key).peek other = some entry := found
  rw [AuthTokenCache.peek_invalidateKey, if_pos (isKey other isOther)] at left
  cases left

theorem noneCached_invalidateRawToken {rawToken : String}
    : NoneCached libraries rawToken
        { server with cache := server.cache.invalidateRawToken libraries rawToken } := by
  unfold AuthTokenCache.invalidateRawToken
  split
  · rename_i noKey
    intro key entry isKey _
    rw [noKey] at isKey
    cases isKey
  · rename_i key isKey
    exact noneCached_invalidateKey fun other isOther =>
      Option.some.inj (isOther.symm.trans isKey)

theorem noneCached_invalidateHashedToken {row : StoredToken} {kind : PrincipalKind}
    (describes : Describes libraries token kind row)
    : NoneCached libraries token.rawToken
        { server with
          cache := server.cache.invalidateHashedToken row.tokenPrefix row.tokenHash } := by
  refine noneCached_invalidateKey fun other isOther => ?_
  unfold buildCacheKey at isOther
  split at isOther
  · cases isOther
  · rw [← Option.some.inj isOther, describes.tokenPrefix, describes.tokenHash]

/-- What a revocation leaves: its token is revoked, and nothing is cached for it. -/
theorem revoked_of_completes (collisionFree : libraries.CollisionFree)
    (reachable : ReachableAuth libraries state)
    (completes : CompletesRequest libraries state id request revoked)
    (revokes : revokesOwnToken request.endpoint = true)
    : ∃ token ∈ state.server.issued,
        token.rawToken = request.rawToken
        ∧ TokenRevoked revoked.server.db token.owner.kind token.tokenId
        ∧ NoneCached libraries request.rawToken revoked.server
        ∧ (∃ cache, revoked.server = { state.server with cache })
        ∧ request.phase = .handle .invalidate
        ∧ revoked.requests
          = state.requests.set id { request with phase := .responded (.ok ()) } := by
  have ledger := tokenLedger_of_reachable collisionFree reachable
  have own := ledger.requests request (List.mem_of_getElem? completes.running)
  have handles (extractor : Extractor) : request.endpoint ≠ .other extractor := by
    intro same
    rw [same] at revokes
    cases revokes
  obtain ⟨current, phase, runs, steps, requests⟩ := completes.handler reachable handles
  obtain ⟨rfl, isRevoked⟩ := revocation_last revokes runs steps
  obtain ⟨context, isContext, tokenRevoked⟩ := own.revoked (by rw [phase]; rfl)
  obtain ⟨token, member, describes, sameToken⟩ := own.contexts context (.inl isContext)
  have sameKind : token.owner.kind = context.kind := congrArg Principal.kind describes.owner
  rw [← sameKind, describes.id] at tokenRevoked
  refine ⟨token, member, sameToken, ?_, ?_, ?_, phase, requests⟩
  · rcases isRevoked with same | ⟨_, _, same⟩ <;> exact same ▸ tokenRevoked
  · rcases isRevoked with same | ⟨other, isOther, same⟩
    · rw [same]
      exact noneCached_invalidateRawToken
    · obtain rfl := Option.some.inj (isContext.symm.trans isOther)
      rw [same, ← sameToken]
      exact noneCached_invalidateHashedToken describes
  · rcases isRevoked with same | ⟨_, _, same⟩ <;> exact ⟨_, same⟩

------------------------------------------------------------
-- When revocation is final
------------------------------------------------------------

/-- A token that is revoked and kept out never lets a request in again. -/
theorem revocationIsFinal_of_ended (collisionFree : libraries.CollisionFree)
    (reachable : ReachableAuth libraries revoked) (isIssued : token ∈ revoked.server.issued)
    (isRevoked : TokenRevoked revoked.server.db token.owner.kind token.tokenId)
    (ended : Ended libraries token.rawToken revoked.requests.length revoked)
    : RevocationIsFinal libraries token.rawToken revoked := by
  intro later path
  have kept
      : token ∈ later.server.issued
        ∧ TokenRevoked later.server.db token.owner.kind token.tokenId
        ∧ Ended libraries token.rawToken revoked.requests.length later := by
    refine reachable.persists
      (fun state =>
        token ∈ state.server.issued
        ∧ TokenRevoked state.server.db token.owner.kind token.tokenId
        ∧ Ended libraries token.rawToken revoked.requests.length state)
      (fun state action next reachable holds taken => ?_) ⟨isIssued, isRevoked, ended⟩ path
    obtain ⟨isIssued, isRevoked, ended⟩ := holds
    have ledger := tokenLedger_of_reachable collisionFree reachable
    exact ⟨stepAuth_issued taken isIssued, tokenRevoked_step ledger isIssued isRevoked taken,
      ended.step collisionFree ledger (ledger.server.used token isIssued)
        (unreadable_of_revoked collisionFree ledger.server isIssued isRevoked)
        (stepAuth_cases taken)⟩
  exact kept.2.2.authenticated

/-- A context that was cached just now is live. -/
theorem live_of_inserted (ledger : ServerLedger libraries server) {context : BearerTokenContext}
    (unexpired : isContextTokenExpired context server.now = false)
    : AuthTokenCacheEntry.isDead { context, insertedAt := server.now } server.now
        server.cache.ttl
      = false := by
  refine Bool.or_eq_false_iff.mpr ⟨decide_eq_false ?_, unexpired⟩
  rw [ledger.ttl, Int.sub_self]
  decide

/-- What a request is still to cache lets the next request in. -/
theorem authenticated_of_pending (collisionFree : libraries.CollisionFree)
    (reachable : ReachableAuth libraries state) (member : request ∈ state.requests)
    {context : BearerTokenContext} (pending : request.phase = .insertCache context)
    (unexpired : isContextTokenExpired context state.server.now = false) (entropy : Entropy)
    : ¬RevocationIsFinal libraries request.rawToken state := by
  intro final
  obtain ⟨id, found⟩ := List.getElem?_of_mem member
  have ledger := tokenLedger_of_reachable collisionFree reachable
  obtain ⟨token, isIssued, _, sameToken⟩ :=
    (ledger.requests request member).contexts context (.inr pending)
  obtain ⟨bytes, isGenerated⟩ := ledger.server.generated token isIssued
  rw [← sameToken] at final
  let filled : AuthState :=
    { state.setRequest id (request.authenticated context) with
      server :=
        { state.server with
          cache :=
            state.server.cache.insertBearerContext libraries state.server.now request.rawToken
              context } }
  have taken : stepAuth libraries state (.act id entropy) = some filled := by
    simp only [stepAuth, found, Option.bind_eq_bind, Option.bind_some, requestStep, pending,
      Option.pure_def, filled]
  have sameTtl : filled.server.cache.ttl = state.server.cache.ttl :=
    AuthTokenCache.insertBearerContext_settings.1
  obtain ⟨key, isKey⟩ : ∃ key, buildCacheKey libraries token.rawToken = some key :=
    ⟨_, isGenerated ▸ buildCacheKey_generateRawToken bytes⟩
  have stored
      : filled.server.cache.peek key = some { context, insertedAt := state.server.now } :=
    AuthTokenCache.peek_insertBearerContext_self (sameToken ▸ isKey) ledger.server.enabled
  have live := live_of_inserted ledger.server unexpired
  rw [← sameTtl] at live
  obtain ⟨started, admitted, starts, admits, _, _, authenticated⟩ :=
    authenticated_of_live (tokenLedger_of_reachable collisionFree (reachable.next taken)) isIssued
      isKey stored live entropy
  have path : ReflTransGen (Next (stepAuth libraries)) state admitted :=
    ((ReflTransGen.single ⟨_, taken⟩).tail ⟨_, starts⟩).tail ⟨_, admits⟩
  have sameLength : filled.requests.length = state.requests.length := List.length_set
  exact authenticated (sameLength ▸ final admitted path)

/-- Revocation is final if and only if no request is about to cache the token again. -/
theorem revocationIsFinal_iff (collisionFree : libraries.CollisionFree)
    (reachable : ReachableAuth libraries state)
    (completes : CompletesRequest libraries state id request revoked)
    (revokes : revokesOwnToken request.endpoint = true)
    : RevocationIsFinal libraries request.rawToken revoked
      ↔ NoFillPending request.rawToken state := by
  obtain
    ⟨token, isIssued, sameToken, isRevoked, noneCached, ⟨cache, sameServer⟩, phase, requests⟩ :=
    revoked_of_completes collisionFree reachable completes revokes
  obtain ⟨entropy, taken⟩ := completes.taken
  have stillIssued := stepAuth_issued taken isIssued
  constructor
  · intro final other member same context pending
    cases expired : isContextTokenExpired context state.server.now with
    | true => rfl
    | false =>
        have stays : other ∈ revoked.requests := by
          obtain ⟨otherId, found⟩ := List.getElem?_of_mem member
          have different : id ≠ otherId := by
            rintro rfl
            obtain rfl := Option.some.inj (completes.running.symm.trans found)
            rw [phase] at pending
            cases pending
          refine List.mem_of_getElem? (i := otherId) ?_
          rw [requests, List.getElem?_set_ne different]
          exact found
        refine absurd (same ▸ final) (authenticated_of_pending collisionFree
          (reachable.next taken) stays pending ?_ entropy)
        rw [sameServer]
        exact expired
  · intro noneFills
    rw [← sameToken]
    refine revocationIsFinal_of_ended collisionFree (reachable.next taken) stillIssued isRevoked
      ⟨fun later _ after found => ?_, fun later _ after found => ?_, ?_, sameToken ▸ noneCached⟩
    · rw [List.getElem?_eq_none after] at found
      cases found
    · rw [List.getElem?_eq_none after] at found
      cases found
    · intro other member same context pending
      rw [sameServer]
      rw [requests] at member
      rcases List.mem_or_eq_of_mem_set member with before | rfl
      · exact noneFills other before (same.trans sameToken) context pending
      · cases pending

------------------------------------------------------------
-- A revocation that is overtaken
------------------------------------------------------------

/-- A client gets a token. -/
def clientGetsToken : List AuthAction :=
  .start (.issueToken ⟨"ac_shop", "secret"⟩) noHeaders :: actTimes 0 1 3

/-- A request of the client that has read its token from the database. -/
def clientReadsToken : List AuthAction :=
  .start (.other .authenticatedRequest) (bearerHeaders (smallToken 1)) :: actTimes 1 1 3

/-- The client revokes its token, up to the last step. -/
def clientRevokesToken (id steps : Nat) : List AuthAction :=
  .start (.revokeToken ⟨smallToken 1, none⟩) (bearerHeaders (smallToken 1))
    :: actTimes id 1 steps

/-- The read token is cached after the revocation, and found by the next request. -/
def clientReturns : List AuthAction :=
  [.act 1 (smallEntropy 1),
    .start (.other .authenticatedRequest) (bearerHeaders (smallToken 1)),
    .act 3 (smallEntropy 1)]

def shopState : AuthState := smallAuthState .empty smallClients

/-- The last step of the revocation comes between the read and the insert of another request. -/
def overtakenRevocation : Bool :=
  (run (stepAuth smallAuthLibraries) shopState
      (clientGetsToken ++ clientReadsToken ++ clientRevokesToken 2 6)).any fun state =>
    (lastStep smallAuthLibraries state 2 (smallEntropy 1)).any fun (request, revoked) =>
      (run (stepAuth smallAuthLibraries) revoked clientReturns).any fun later =>
        revokesOwnToken request.endpoint && revoked.requests.length ≤ 3
          && (later.requests[3]?).any fun late =>
            late.rawToken = request.rawToken && late.context.isSome

theorem overtakenRevocation_runs : overtakenRevocation = true := by decide +kernel

/-- The request that was about to cache the token does so after the revocation. -/
theorem revokedToken_returns
    : ∃ state request revoked,
        run (stepAuth smallAuthLibraries) shopState
            (clientGetsToken ++ clientReadsToken ++ clientRevokesToken 2 6)
          = some state
        ∧ ReachableAuth smallAuthLibraries state
        ∧ CompletesRequest smallAuthLibraries state 2 request revoked
        ∧ revokesOwnToken request.endpoint = true
        ∧ ¬RevocationIsFinal smallAuthLibraries request.rawToken revoked := by
  obtain ⟨state, ran, scenario⟩ := (Option.any_eq_true _ _).mp overtakenRevocation_runs
  obtain ⟨⟨request, revoked⟩, last, scenario⟩ := (Option.any_eq_true _ _).mp scenario
  obtain ⟨later, returns, scenario⟩ := (Option.any_eq_true _ _).mp scenario
  simp only [Bool.and_eq_true, decide_eq_true_eq] at scenario
  obtain ⟨⟨revokes, length⟩, admitted⟩ := scenario
  refine ⟨state, request, revoked, ran, .of_run (smallAuthState_initial _ _) ran,
    completes_of_lastStep last, revokes, fun final => ?_⟩
  exact not_noneAuthenticated length (by simpa using admitted) (final later (path_of_run returns))

/-- The revocation takes its last step while no other request is in progress. -/
def quietRevocation : Bool :=
  (run (stepAuth smallAuthLibraries) shopState
      (clientGetsToken ++ clientRevokesToken 1 6)).any fun state =>
    (lastStep smallAuthLibraries state 1 (smallEntropy 1)).any fun (request, _) =>
      revokesOwnToken request.endpoint
        && state.requests.all fun request => !Phase.isPending request.phase

theorem quietRevocation_runs : quietRevocation = true := by decide +kernel

theorem revocationIsFinal_quietRevocation
    : ∃ state request revoked,
        run (stepAuth smallAuthLibraries) shopState (clientGetsToken ++ clientRevokesToken 1 6)
          = some state
        ∧ CompletesRequest smallAuthLibraries state 1 request revoked
        ∧ RevocationIsFinal smallAuthLibraries request.rawToken revoked := by
  obtain ⟨state, ran, scenario⟩ := (Option.any_eq_true _ _).mp quietRevocation_runs
  obtain ⟨⟨request, revoked⟩, last, scenario⟩ := (Option.any_eq_true _ _).mp scenario
  obtain ⟨revokes, nonePending⟩ := Bool.and_eq_true_iff.mp scenario
  have completes := completes_of_lastStep last
  exact ⟨state, request, revoked, ran, completes,
    (revocationIsFinal_iff smallAuthLibraries_collisionFree
      (.of_run (smallAuthState_initial _ _) ran) completes revokes).mpr
      (noFillPending_of_none nonePending)⟩

end AlonSentinel.System
