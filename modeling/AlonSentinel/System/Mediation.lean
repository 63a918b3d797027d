import AlonSentinel.Foundation.Histories
import AlonSentinel.System.TokenRevocation

/-! Where the permissions of a request come from. Whatever the interleaving of requests with the
cache, a request is authenticated with what the database said of its own token, at a step of the
request itself or less than the lifetime of a cached context after a request stored what it read.
-/

namespace AlonSentinel.System

open Api
open Auth
open Domain
open KeyedTable
open TransitionSystem

variable {libraries : AuthLibraries} {server after : AuthServer} {request stepped : Request}
  {entropy : Entropy} {state before next : AuthState} {past older history : List AuthState}
  {id : Nat} {rawToken : String} {context : BearerTokenContext}

------------------------------------------------------------
-- What the database says
------------------------------------------------------------

/-- The permissions that the database grants to a principal. -/
def permissionsOf (db : AuthDatabase) (owner : Principal) : PermissionSet :=
  match owner.kind with
  | .adminUser => listPermissionKeysForAdminUser db owner.id
  | .apiClient => permissionsFromApiClientScopes (listApiClientScopes db owner.id)

/-- A context of a token is what the database says of it: a stored token in use, of an active
owner, with the permissions of that owner.
-/
structure SaidBy (libraries : AuthLibraries) (server : AuthServer) (rawToken : String)
    (context : BearerTokenContext)
    : Prop where
  read : ReadFrom server.db server.now (libraries.hashToken rawToken) context
  permissions : context.permissions = permissionsOf server.db context.owner

theorem saidBy_of_authenticated {kind : PrincipalKind}
    (ok : authenticateTokenOfKind libraries server.db server.now rawToken kind = .ok context)
    : SaidBy libraries server rawToken context := by
  refine ⟨(authenticateTokenOfKind_ok ok).2, ?_⟩
  cases kind with
  | adminUser =>
      simp only [authenticateTokenOfKind, authenticateAdminBearerToken] at ok
      split at ok
      · cases ok
      · rename_i token user roles permissions found
        obtain ⟨_, _, found⟩ := Option.bind_eq_some_iff.mp found
        obtain ⟨_, isUser, found⟩ := Option.bind_eq_some_iff.mp found
        cases found
        cases checked : checkToken adminAccessTokenMessages server.now token user.isActive with
        | error message =>
            rw [checked] at ok
            cases ok
        | ok passed =>
            rw [checked] at ok
            cases ok
            exact congrArg (listPermissionKeysForAdminUser server.db) (Table.mem_of_find? isUser).2
  | apiClient =>
      simp only [authenticateTokenOfKind, authenticateBearerToken] at ok
      split at ok
      · cases ok
      · rename_i token client scopes found
        obtain ⟨_, _, found⟩ := Option.bind_eq_some_iff.mp found
        obtain ⟨_, isClient, found⟩ := Option.bind_eq_some_iff.mp found
        cases found
        cases checked : checkToken accessTokenMessages server.now token client.isActive with
        | error message =>
            rw [checked] at ok
            cases ok
        | ok passed =>
            rw [checked] at ok
            cases ok
            exact congrArg
              (fun id => permissionsFromApiClientScopes (listApiClientScopes server.db id))
              (Table.mem_of_find? isClient).2

------------------------------------------------------------
-- Where contexts come from
------------------------------------------------------------

/-- A request is about to store a context of a token. -/
def AboutToStore (id : Nat) (context : BearerTokenContext) (state : AuthState) (rawToken : String)
    : Prop :=
  ∃ request,
    state.requests[id]? = some request
    ∧ request.rawToken = rawToken
    ∧ request.phase = .insertCache context

/-- A request reads a context of its token in its step, as the database has it at that moment, and
is about to store it.
-/
structure ReadsContext (libraries : AuthLibraries) (id : Nat) (context : BearerTokenContext)
    (before after : AuthState) (rawToken : String)
    : Prop where
  reads
    : ∃ request,
        before.requests[id]? = some request
        ∧ request.rawToken = rawToken
        ∧ ∃ lookup kind, request.phase = .readContext lookup kind
  said : SaidBy libraries before.server rawToken context
  own : OwnStep libraries id before after
  pending : AboutToStore id context after rawToken

/-- A request has read a context of its token at some step. -/
def ReadIn (libraries : AuthLibraries) (history : List AuthState) (id : Nat) (rawToken : String)
    (context : BearerTokenContext)
    : Prop :=
  ∃ before after older,
    Passes history before after older ∧ ReadsContext libraries id context before after rawToken

/-- A request is authenticated with a context of a token. -/
def Authenticated (id : Nat) (context : BearerTokenContext) (state : AuthState) (rawToken : String)
    : Prop :=
  ∃ request,
    state.requests[id]? = some request
    ∧ request.rawToken = rawToken
    ∧ request.context = some context

/-- A request looks a context up in its step, finds it in the cache, and is authenticated with it.
-/
structure FindsInCache (libraries : AuthLibraries) (id : Nat) (context : BearerTokenContext)
    (asked answered : AuthState) (rawToken : String)
    : Prop where
  finds
    : ∃ request lookup,
        asked.requests[id]? = some request
        ∧ request.rawToken = rawToken
        ∧ request.phase = .lookupCache lookup
        ∧ (lookup.cached libraries asked.server.cache asked.server.now rawToken).1 = some context
  own : OwnStep libraries id asked answered
  authenticated : Authenticated id context answered rawToken

def IsCached (key : AuthTokenCacheKey) (state : AuthState) (entry : AuthTokenCacheEntry) : Prop :=
  state.server.cache.peek key = some entry

/-- A request stores an entry of the cache in its step, as it was about to. -/
structure Stores (libraries : AuthLibraries) (key : AuthTokenCacheKey)
    (storing stored : AuthState) (entry : AuthTokenCacheEntry) (id : Nat) (rawToken : String)
    : Prop where
  pending : AboutToStore id entry.context storing rawToken
  own : OwnStep libraries id storing stored
  isKey : buildCacheKey libraries rawToken = some key
  cached : IsCached key stored entry
  insertedAt : entry.insertedAt = storing.server.now

/-- A request found a context in the cache in a step, while the token was good. A request with the
same token had read that context, and stored the entry with it less than the lifetime of a cached
context before.
-/
structure AnsweredIn (libraries : AuthLibraries) (history : List AuthState) (id : Nat)
    (rawToken : String) (context : BearerTokenContext) (asked answered storing stored : AuthState)
    (older earlier : List AuthState) (other : Nat)
    : Prop where
  passes : Passes history asked answered older
  finds : FindsInCache libraries id context asked answered rawToken
  unexpired : asked.server.now < context.token.expiresAt
  before : Passes (asked :: older) storing stored earlier
  stores
    : ∃ key entry,
        entry.context = context
        ∧ IsCached key asked entry
        ∧ Stores libraries key storing stored entry other rawToken
  recent : asked.server.now < storing.server.now + seconds 30
  read : ReadIn libraries (storing :: earlier) other rawToken context

/-- A context is one that the database gave for a token, now or a short while ago. -/
def Mediated (libraries : AuthLibraries) (history : List AuthState) (id : Nat) (rawToken : String)
    (context : BearerTokenContext)
    : Prop :=
  ReadIn libraries history id rawToken context
  ∨ ∃ asked answered storing stored older earlier other,
      AnsweredIn libraries history id rawToken context asked answered storing stored older earlier
        other

/-- What was read before is still so in the longer run. -/
theorem ReadIn.of_suffix (read : ReadIn libraries past id rawToken context)
    (suffix : past <:+ history)
    : ReadIn libraries history id rawToken context := by
  obtain ⟨before, after, older, passes, reads⟩ := read
  exact ⟨before, after, older, passes.of_suffix suffix, reads⟩

/-- What a request is about to cache, it has read itself. -/
theorem readIn_of_pending (run : History (stepAuth libraries) AuthState.IsInitial (state :: past))
    (found : state.requests[id]? = some request) (pending : request.phase = .insertCache context)
    : ReadIn libraries (state :: past) id request.rawToken context := by
  refine History.origin (AboutToStore id context) _ ?_ ?_ run ⟨request, found, rfl, pending⟩
  · rintro start first ⟨request, found, _⟩
    rw [first.requests] at found
    cases found
  · rintro before action after _ taken ⟨stepped, found, same, pending⟩
    cases authStepped_request (stepAuth_cases taken) found with
    | same earlier => exact .inl ⟨stepped, earlier, same, pending⟩
    | arrived _ _ isRequest =>
        exact absurd pending (isRequest ▸ notPending_startRequestOf _ _ context)
    | ended _ finished isRequest =>
        cases isRequest
        exact absurd pending (Phase.notPending (Phase.isPlain_of_isOver finished))
    | stepped earlier steps own =>
        obtain ⟨lookup, kind, phase, ok⟩ := requestStepped_reads steps pending
        have sameToken := (requestStepped_rawToken steps).symm.trans same
        exact .inr
          { reads := ⟨_, earlier, sameToken, lookup, kind, phase⟩
            said := saidBy_of_authenticated (sameToken ▸ ok)
            own
            pending := ⟨stepped, found, same, pending⟩ }

/-- What is cached was stored by a request. -/
theorem stores_of_cached (run : History (stepAuth libraries) AuthState.IsInitial (state :: past))
    {key : AuthTokenCacheKey} {entry : AuthTokenCacheEntry} (cached : IsCached key state entry)
    : ∃ storing stored earlier,
        Passes (state :: past) storing stored earlier
        ∧ ∃ id rawToken, Stores libraries key storing stored entry id rawToken := by
  refine History.origin (IsCached key)
    (fun storing stored entry =>
      ∃ id rawToken, Stores libraries key storing stored entry id rawToken)
    ?_ ?_ run cached
  · intro start first cached
    rw [IsCached, first.cache, AuthTokenCache.peek_new] at cached
    cases cached
  · intro before action after _ taken left
    cases stepAuth_cases taken with
    | started | ended | advanced => exact .inl left
    | changedRoles shrinks => exact .inl (shrinks.peek key entry left)
    | restarted => cases left
    | acted found steps own =>
        cases requestStepped_effect steps with
        | shrunk shrinks => exact .inl (shrinks.peek key entry left)
        | inserted pending =>
            rcases AuthTokenCache.peek_of_peek_insertBearerContext left with ⟨isKey, rfl⟩ | kept
            · exact .inr ⟨_, _, ⟨_, found, rfl, pending⟩, own, isKey, left, rfl⟩
            · exact .inl kept
        | _ => exact .inl left

/-- A request is authenticated in its next step: with what it is about to store, or from the cache.
-/
inductive Asks (libraries : AuthLibraries) (id : Nat) (context : BearerTokenContext)
    (asked answered : AuthState) (rawToken : String)
    : Prop
  | pending (pending : AboutToStore id context asked rawToken)
  | cached (finds : FindsInCache libraries id context asked answered rawToken)

/-- A request that is authenticated was so in some step. -/
theorem asks_of_authenticated
    (run : History (stepAuth libraries) AuthState.IsInitial (state :: past))
    (authenticated : Authenticated id context state rawToken)
    : ∃ asked answered older,
        Passes (state :: past) asked answered older
        ∧ Asks libraries id context asked answered rawToken := by
  refine History.origin (Authenticated id context) _ ?_ ?_ run authenticated
  · rintro start first ⟨request, found, _⟩
    rw [first.requests] at found
    cases found
  · rintro before action after _ taken ⟨stepped, found, same, isContext⟩
    cases authStepped_request (stepAuth_cases taken) found with
    | same earlier => exact .inl ⟨stepped, earlier, same, isContext⟩
    | arrived _ _ isRequest =>
        rw [isRequest, (startRequestOf_cases _ _).1] at isContext
        cases isContext
    | ended earlier _ isRequest =>
        cases isRequest
        exact .inl ⟨_, earlier, same, isContext⟩
    | @stepped request _ earlier steps own =>
        have sameToken := (requestStepped_rawToken steps).symm.trans same
        rcases requestStepped_context steps isContext with kept | pending | ⟨lookup, phase, answer⟩
        · exact .inl ⟨request, earlier, sameToken, kept⟩
        · exact .inr (.pending ⟨request, earlier, sameToken, pending⟩)
        · exact .inr (.cached
            { finds := ⟨request, lookup, earlier, sameToken, phase, sameToken ▸ answer⟩
              own
              authenticated := ⟨stepped, found, same, isContext⟩ })

------------------------------------------------------------
-- Mediation
------------------------------------------------------------

/-- What authenticates a request in a step is mediated: either it has read that itself, or it found
it in the cache, and then another request with the same token had read and stored it.
-/
theorem mediated_of_asks (collisionFree : libraries.CollisionFree)
    (run : History (stepAuth libraries) AuthState.IsInitial history) {asked answered : AuthState}
    (passes : Passes history asked answered older)
    (asks : Asks libraries id context asked answered rawToken)
    : Mediated libraries history id rawToken context := by
  have askedRun := run.upTo_passes passes
  cases asks with
  | pending pending =>
      obtain ⟨asking, isAsking, rfl, pending⟩ := pending
      exact .inl ((readIn_of_pending askedRun isAsking pending).of_suffix passes.suffix)
  | cached finds =>
      obtain ⟨asking, lookup, isAsking, rfl, _, answer⟩ := finds.finds
      obtain ⟨key, entry, isKey, cached, live, rfl⟩ := TokenLookup.of_cached answer
      obtain ⟨storing, stored, earlier, between, other, storedToken, stores⟩ :=
        stores_of_cached askedRun cached
      obtain ⟨storer, isStorer, rfl, pending⟩ := stores.pending
      have storingRun := askedRun.upTo_passes between
      have ledger := tokenLedger_of_reachable collisionFree askedRun.reachable
      -- The cache knows a token by its hash.
      have sameToken : storer.rawToken = asking.rawToken := by
        have storingLedger := tokenLedger_of_reachable collisionFree storingRun.reachable
        exact buildCacheKey_injective collisionFree
          (storingLedger.requests _ (List.mem_of_getElem? isStorer)).used
          (ledger.requests _ (List.mem_of_getElem? isAsking)).used stores.isKey isKey
      obtain ⟨notOld, notExpired⟩ := Bool.or_eq_false_iff.mp live
      have young := Int.not_le.mp (of_decide_eq_false notOld)
      rw [ledger.server.ttl, stores.insertedAt] at young
      rw [sameToken] at stores
      refine .inr ⟨asked, answered, storing, stored, older, earlier, other,
        { passes
          finds
          unexpired := Int.not_le.mp (of_decide_eq_false notExpired)
          before := between
          stores := ⟨key, entry, rfl, cached, stores⟩
          recent := Int.lt_add_of_sub_left_lt young
          read := ?_ }⟩
      rw [← sameToken]
      exact readIn_of_pending storingRun isStorer pending

/-- Whatever a request is authenticated with, the database said of its token: in a step of its own,
or less than the lifetime of a cached context after another request stored what it had read.
-/
theorem authentication_isMediated (collisionFree : libraries.CollisionFree)
    (run : History (stepAuth libraries) AuthState.IsInitial (state :: past))
    (found : state.requests[id]? = some request) (isContext : request.context = some context)
    : Mediated libraries (state :: past) id request.rawToken context := by
  obtain ⟨asked, answered, older, passes, asks⟩ :=
    asks_of_authenticated run ⟨request, found, rfl, isContext⟩
  exact mediated_of_asks collisionFree run passes asks

/-- A client gets a token, one request reads and stores its context, and the next one finds it. -/
def clientIsRemembered : List AuthAction :=
  clientGetsToken ++ clientReadsToken
    ++ [.act 1 (smallEntropy 1),
      .start (.other .authenticatedRequest) (bearerHeaders (smallToken 1)),
      .act 2 (smallEntropy 1)]

def rememberedClient : Bool :=
  (run (stepAuth smallAuthLibraries) shopState clientIsRemembered).any fun state =>
    (state.requests[2]?).any (·.context.isSome)

theorem rememberedClient_runs : rememberedClient = true := by decide +kernel

theorem authentication_isMediated_rememberedClient
    : ∃ state past request context,
        run (stepAuth smallAuthLibraries) shopState clientIsRemembered = some state
        ∧ state.requests[2]? = some request
        ∧ Mediated smallAuthLibraries (state :: past) 2 request.rawToken context := by
  obtain ⟨state, ran, remembered⟩ := (Option.any_eq_true _ _).mp rememberedClient_runs
  obtain ⟨request, found, admitted⟩ := (Option.any_eq_true _ _).mp remembered
  obtain ⟨context, isContext⟩ := Option.isSome_iff_exists.mp admitted
  obtain ⟨past, history⟩ := (Reachable.of_run (smallAuthState_initial _ _) ran).history
  exact ⟨state, past, request, context, ran, found,
    authentication_isMediated smallAuthLibraries_collisionFree history found isContext⟩

end AlonSentinel.System
