import AlonSentinel.System.TokenLedger

/-! Tokens that let no new request in: no live context of theirs is cached, none is about to be
cached, and the database rejects them. What a step has to leave alone for this to stay so, and
how a live cached context undoes it.
-/

namespace AlonSentinel.System

open Api
open Auth
open Domain
open Relation
open TransitionSystem

variable {libraries : AuthLibraries} {server after : AuthServer} {request stepped : Request}
  {entropy : Entropy} {state next : AuthState} {action : AuthAction} {id first : Nat}
  {rawToken : String}

------------------------------------------------------------
-- Steps of a request
------------------------------------------------------------

/-- A handler goes on to another phase of a handler, or the request is over. -/
theorem handlerStepped_goesOn {current : HandlerPhase} {next : Phase}
    (steps : HandlerStepped libraries server request current after next)
    : next.isOver = true ∨ ∃ phase, next = .handle phase := by
  cases steps with
  | rejected | recorded | endedRawToken | endedHashedToken | deletedUser | replacedScopes
  | deletedClient | responded => exact .inl rfl
  | _ => exact .inr ⟨_, rfl⟩

theorem Phase.notPending_of_goesOn {phase : Phase}
    (goesOn : phase.isOver = true ∨ ∃ current, phase = .handle current)
    {context : BearerTokenContext}
    : phase ≠ .insertCache context := by
  rintro rfl
  rcases goesOn with finished | ⟨_, isHandle⟩
  · cases finished
  · cases isHandle

theorem Phase.notPending_authenticated (request : Request) (context other : BearerTokenContext)
    : (request.authenticated context).phase ≠ .insertCache other := by
  rcases request.authenticated_cases context with same | ⟨phase, failed, same⟩
  · rw [same]
    exact Phase.notPending (Phase.isPlain_of_isStart (startHandler_isStart _ _ context))
  · rw [same]
    exact Phase.notPending (Phase.isPlain_of_isOver (Phase.isOver_of_hasFailed failed))

/-- No step of a request changes the token that it carries. -/
theorem requestStepped_rawToken
    (steps : RequestStepped libraries server request entropy after stepped)
    : stepped.rawToken = request.rawToken := by
  have authenticated (context : BearerTokenContext)
      : (request.authenticated context).rawToken = request.rawToken := by
    rcases request.authenticated_cases context with same | ⟨_, _, same⟩ <;> rw [same]
  cases steps with
  | @lookedUp lookup phase =>
      cases (lookup.cached libraries server.cache server.now request.rawToken).1 with
      | none => cases lookup <;> rfl
      | some context => exact authenticated context
  | inserted pending => exact authenticated _
  | foundKind | rejected | read | handled => rfl

/-- What a request is about to cache, it has just read, by the token that it carries. -/
theorem requestStepped_reads
    (steps : RequestStepped libraries server request entropy after stepped)
    {context : BearerTokenContext} (pending : stepped.phase = .insertCache context)
    : ∃ lookup kind,
        request.phase = .readContext lookup kind
        ∧ authenticateTokenOfKind libraries server.db server.now request.rawToken kind
          = .ok context := by
  cases steps with
  | @lookedUp lookup phase =>
      cases found : (lookup.cached libraries server.cache server.now request.rawToken).1 with
      | none =>
          rw [found] at pending
          cases lookup <;> cases pending
      | some other =>
          rw [found] at pending
          exact absurd pending (Phase.notPending_authenticated request other context)
  | foundKind | rejected => cases pending
  | read phase ok =>
      cases pending
      exact ⟨_, _, phase, ok⟩
  | inserted => exact absurd pending (Phase.notPending_authenticated request _ context)
  | handled phase handles =>
      exact absurd pending
        (Phase.notPending_of_goesOn (handlerStepped_goesOn (handlerStep_cases handles)))

theorem requestStepped_pending
    (steps : RequestStepped libraries server request entropy after stepped)
    {context : BearerTokenContext} (pending : stepped.phase = .insertCache context)
    : ReadFrom server.db server.now (libraries.hashToken request.rawToken) context := by
  obtain ⟨_, _, _, ok⟩ := requestStepped_reads steps pending
  exact (authenticateTokenOfKind_ok ok).2

/-- What a request is authenticated with, it was before, has found in the cache, or has read. -/
theorem requestStepped_context
    (steps : RequestStepped libraries server request entropy after stepped)
    {context : BearerTokenContext} (isContext : stepped.context = some context)
    : request.context = some context
      ∨ request.phase = .insertCache context
      ∨ ∃ lookup : TokenLookup,
          request.phase = .lookupCache lookup
          ∧ (lookup.cached libraries server.cache server.now request.rawToken).1
            = some context := by
  have authenticated {other : BearerTokenContext}
      (isContext : (request.authenticated other).context = some context)
      : request.context = some context ∨ other = context := by
    rcases request.authenticated_cases other with same | ⟨_, _, same⟩
    · rw [same] at isContext
      exact .inr (Option.some.inj isContext)
    · rw [same] at isContext
      exact .inl isContext
  cases steps with
  | @lookedUp lookup phase =>
      cases found : (lookup.cached libraries server.cache server.now request.rawToken).1 with
      | none =>
          rw [found] at isContext
          exact .inl (by cases lookup <;> exact isContext)
      | some other =>
          rw [found] at isContext
          rcases authenticated isContext with before | rfl
          · exact .inl before
          · exact .inr (.inr ⟨lookup, phase, found⟩)
  | inserted pending =>
      rcases authenticated isContext with before | rfl
      · exact .inl before
      · exact .inr (.inl pending)
  | foundKind | rejected | read | handled => exact .inl isContext

/-- No step of a request changes the time, or for how long contexts are cached. -/
theorem serverEffect_clock (effect : ServerEffect libraries server request after)
    : after.now = server.now ∧ after.cache.ttl = server.cache.ttl := by
  cases effect with
  | shrunk shrinks => exact ⟨rfl, shrinks.ttl⟩
  | inserted pending => exact ⟨rfl, AuthTokenCache.insertBearerContext_settings.1⟩
  | _ => exact ⟨rfl, rfl⟩

------------------------------------------------------------
-- Tokens that let no request in
------------------------------------------------------------

/-- No request from a number on was authenticated with a token. -/
def NoneAuthenticated (rawToken : String) (first : Nat) (state : AuthState) : Prop :=
  ∀ id request,
    first ≤ id
    → state.requests[id]? = some request
    → request.rawToken = rawToken
    → request.context = none

theorem not_noneAuthenticated (late : first ≤ id)
    (admitted
      : (state.requests[id]?).any
          (fun request => request.rawToken = rawToken && request.context.isSome)
        = true)
    : ¬NoneAuthenticated rawToken first state := by
  intro none
  cases found : state.requests[id]? with
  | none =>
      rw [found] at admitted
      cases admitted
  | some request =>
      rw [found, Option.any_some, Bool.and_eq_true, decide_eq_true_eq] at admitted
      rw [none id request late found admitted.1] at admitted
      cases admitted.2

/-- No request that carries a token is about to cache a context of it that is still good. -/
def NoFillPending (rawToken : String) (state : AuthState) : Prop :=
  ∀ request ∈ state.requests,
    request.rawToken = rawToken
    → ∀ context,
        request.phase = .insertCache context
        → isContextTokenExpired context state.server.now = true

/-- Whether a request has read a context that it is about to cache. -/
def Phase.isPending : Phase → Bool
  | .insertCache _ => true
  | _ => false

theorem noFillPending_of_none
    (none : state.requests.all (fun request => !Phase.isPending request.phase) = true)
    : NoFillPending rawToken state := by
  intro request member _ context isPending
  have notPending := List.all_eq_true.mp none request member
  rw [isPending] at notPending
  cases notPending

/-- No context is cached for a token that would still be answered. -/
def NoneCached (libraries : AuthLibraries) (rawToken : String) (server : AuthServer) : Prop :=
  ∀ key entry,
    buildCacheKey libraries rawToken = some key
    → server.cache.peek key = some entry
    → entry.isDead server.now server.cache.ttl = true

/-- The database rejects a token. -/
def Unreadable (libraries : AuthLibraries) (rawToken : String) (server : AuthServer) : Prop :=
  ∀ context, ¬ReadFrom server.db server.now (libraries.hashToken rawToken) context

/-- A token that lets no request in, from a number on. -/
structure Ended (libraries : AuthLibraries) (rawToken : String) (first : Nat)
    (state : AuthState)
    : Prop where
  authenticated : NoneAuthenticated rawToken first state
  unread
    : ∀ id request,
        first ≤ id
        → state.requests[id]? = some request
        → request.rawToken = rawToken
        → ∀ context, request.phase ≠ .insertCache context
  pending : NoFillPending rawToken state
  cached : NoneCached libraries rawToken state.server

/-- Nothing that is cached for the token comes to life again. -/
theorem NoneCached.effect (collisionFree : libraries.CollisionFree)
    (used : libraries.usesToken rawToken = true)
    (requestUsed : libraries.usesToken request.rawToken = true)
    (pending
      : request.rawToken = rawToken
        → ∀ context,
            request.phase = .insertCache context
            → isContextTokenExpired context server.now = true)
    (holds : NoneCached libraries rawToken server)
    (effect : ServerEffect libraries server request after)
    : NoneCached libraries rawToken after := by
  intro key entry isKey found
  obtain ⟨sameNow, sameTtl⟩ := serverEffect_clock effect
  rw [sameNow, sameTtl]
  cases effect with
  | shrunk shrinks => exact holds key entry isKey (shrinks.peek key entry found)
  | @inserted context isPending =>
      rcases AuthTokenCache.peek_of_peek_insertBearerContext found with ⟨sameKey, rfl⟩ | before
      · have same := buildCacheKey_injective collisionFree requestUsed used sameKey isKey
        exact Bool.or_eq_true_iff.mpr (.inr (pending same context isPending))
      · exact holds key entry isKey before
  | _ => exact holds key entry isKey found

/-- Nothing that is cached for the token comes to life again. -/
theorem NoneCached.step (collisionFree : libraries.CollisionFree)
    (ledger : TokenLedger libraries state) (used : libraries.usesToken rawToken = true)
    (pending : NoFillPending rawToken state) (holds : NoneCached libraries rawToken state.server)
    (steps : AuthStepped libraries state next)
    : NoneCached libraries rawToken next.server := by
  cases steps with
  | started | ended => exact holds
  | acted found steps =>
      have member := List.mem_of_getElem? found
      exact holds.effect collisionFree used (ledger.requests _ member).used
        (fun same => pending _ member same) (requestStepped_effect steps)
  | advanced elapsed =>
      intro key entry isKey stored
      exact AuthTokenCacheEntry.isDead_mono
        (Int.le_add_of_nonneg_right (Int.natCast_nonneg elapsed)) (holds key entry isKey stored)
  | changedRoles shrinks =>
      intro key entry isKey stored
      have dead := holds key entry isKey (shrinks.peek key entry stored)
      rw [← shrinks.ttl] at dead
      exact dead
  | restarted =>
      intro key entry _ stored
      cases stored

/-- Time does not go back. -/
theorem authStepped_now (steps : AuthStepped libraries state next)
    : state.server.now ≤ next.server.now := by
  cases steps with
  | started | ended | changedRoles | restarted => exact le_refl _
  | acted _ steps => exact (serverEffect_clock (requestStepped_effect steps)).1.ge
  | advanced elapsed => exact Int.le_add_of_nonneg_right (Int.natCast_nonneg elapsed)

/-- A request of the token that is at work is not authenticated from a number on, and reads
nothing.
-/
theorem Ended.keepsOut (ended : Ended libraries rawToken first state)
    (unreadable : Unreadable libraries rawToken state.server)
    (found : state.requests[id]? = some request) (same : request.rawToken = rawToken)
    (steps : RequestStepped libraries state.server request entropy after stepped)
    : (first ≤ id → stepped.context = none)
      ∧ ∀ context, stepped.phase ≠ .insertCache context := by
  refine ⟨fun later => ?_, fun context pending => ?_⟩
  · cases isContext : stepped.context with
    | none => rfl
    | some context =>
        rcases requestStepped_context steps isContext with
          before | isPending | ⟨lookup, _, answered⟩
        · rw [ended.authenticated id request later found same] at before
          cases before
        · exact absurd isPending (ended.unread id request later found same context)
        · obtain ⟨key, entry, isKey, stored, live, _⟩ := TokenLookup.of_cached answered
          rw [ended.cached key entry (same ▸ isKey) stored] at live
          cases live
  · exact unreadable context (same ▸ requestStepped_pending steps pending)

theorem notPending_startRequestOf (endpoint : Endpoint) (headers : AuthHeaders)
    (context : BearerTokenContext)
    : (startRequestOf endpoint headers).phase ≠ .insertCache context := by
  rcases (startRequestOf_cases endpoint headers).2 with start | ⟨lookup, isLookup⟩
  · exact Phase.notPending (Phase.isPlain_of_isStart start)
  · rw [isLookup]
    exact Phase.notPending rfl

/-- Every step of the system keeps the token out, as long as the database rejects it. -/
theorem Ended.step (collisionFree : libraries.CollisionFree)
    (ledger : TokenLedger libraries state) (used : libraries.usesToken rawToken = true)
    (unreadable : Unreadable libraries rawToken state.server)
    (ended : Ended libraries rawToken first state) (steps : AuthStepped libraries state next)
    : Ended libraries rawToken first next where
  authenticated id request later found same := by
    cases authStepped_request steps found with
    | same before => exact ended.authenticated id request later before same
    | arrived _ _ isRequest => exact isRequest ▸ (startRequestOf_cases _ _).1
    | @ended before phase isBefore finished isRequest =>
        cases isRequest
        exact ended.authenticated id before later isBefore same
    | stepped before steps =>
        have sameToken := (requestStepped_rawToken steps).symm.trans same
        exact (ended.keepsOut unreadable before sameToken steps).1 later
  unread id request later found same := by
    cases authStepped_request steps found with
    | same before => exact ended.unread id request later before same
    | arrived _ _ isRequest => exact isRequest ▸ notPending_startRequestOf _ _
    | ended before finished isRequest =>
        cases isRequest
        exact fun _ => Phase.notPending (Phase.isPlain_of_isOver finished)
    | stepped before steps =>
        have sameToken := (requestStepped_rawToken steps).symm.trans same
        exact (ended.keepsOut unreadable before sameToken steps).2
  pending request member same context isPending := by
    obtain ⟨id, found⟩ := List.getElem?_of_mem member
    cases authStepped_request steps found with
    | same before =>
        have expired := ended.pending request (List.mem_of_getElem? before) same context isPending
        exact decide_eq_true ((of_decide_eq_true expired).trans (authStepped_now steps))
    | arrived _ _ isRequest =>
        exact absurd isPending (isRequest ▸ notPending_startRequestOf _ _ context)
    | ended before finished isRequest =>
        cases isRequest
        exact absurd isPending (Phase.notPending (Phase.isPlain_of_isOver finished))
    | stepped before steps =>
        have sameToken := (requestStepped_rawToken steps).symm.trans same
        exact absurd isPending ((ended.keepsOut unreadable before sameToken steps).2 context)
  cached := ended.cached.step collisionFree ledger used ended.pending steps

------------------------------------------------------------
-- Tokens that let requests in
------------------------------------------------------------

/-- A live cached context lets a request in, whatever the database holds. -/
theorem authenticated_of_live (ledger : TokenLedger libraries state) {token : IssuedToken}
    (isIssued : token ∈ state.server.issued) {key : AuthTokenCacheKey}
    {entry : AuthTokenCacheEntry} (isKey : buildCacheKey libraries token.rawToken = some key)
    (stored : state.server.cache.peek key = some entry)
    (live : entry.isDead state.server.now state.server.cache.ttl = false) (entropy : Entropy)
    : ∃ started admitted,
        stepAuth libraries state
            (.start (.other .authenticatedRequest) (bearerHeaders token.rawToken))
          = some started
        ∧ stepAuth libraries started (.act state.requests.length entropy) = some admitted
        ∧ started.server = state.server
        ∧ admitted.server.db = state.server.db
        ∧ ¬NoneAuthenticated token.rawToken state.requests.length admitted := by
  obtain ⟨bytes, isGenerated⟩ := ledger.server.generated token isIssued
  have used := ledger.server.used token isIssued
  have extracted : extractBearerToken (bearerHeaders token.rawToken) = .ok token.rawToken :=
    isGenerated ▸ extractBearerToken_bearerHeaders bytes
  have answered
      : (TokenLookup.anyBearer.cached libraries state.server.cache state.server.now
          token.rawToken).1
        = some entry.context :=
    TokenLookup.cached_of_live isKey stored live (.inl rfl)
  let arrived : Request :=
    { endpoint := .other .authenticatedRequest
      rawToken := token.rawToken
      context := none
      phase := .lookupCache .anyBearer }
  have arrives
      : startRequestOf (.other .authenticatedRequest) (bearerHeaders token.rawToken) = arrived := by
    simp only [startRequestOf, Endpoint.extractor, Extractor.credential, extracted, arrived]
  let server : AuthServer :=
    { state.server with
      cache :=
        (TokenLookup.anyBearer.cached libraries state.server.cache state.server.now
          token.rawToken).2 }
  have looked
      : requestStep libraries state.server arrived entropy
        = some (server, arrived.authenticated entry.context) := by
    simp only [requestStep, arrived, answered, Request.afterLookup, server]
  have admits : (arrived.authenticated entry.context).context = some entry.context := by
    cases entry.context <;> rfl
  refine ⟨{ state with requests := state.requests ++ [arrived] },
    { server
      requests :=
        (state.requests ++ [arrived]).set state.requests.length
          (arrived.authenticated entry.context) },
    ?_, ?_, rfl, rfl, fun none => ?_⟩
  · simp only [stepAuth, arrives, arrived, used, if_true]
  · simp only [stepAuth, List.getElem?_concat_length, Option.bind_eq_bind, Option.bind_some,
      looked, Option.pure_def, AuthState.setRequest]
  · have refused := none state.requests.length (arrived.authenticated entry.context) (le_refl _)
      (by simp) (by cases entry.context <;> rfl)
    rw [admits] at refused
    cases refused

------------------------------------------------------------
-- Requests that are answered
------------------------------------------------------------

/-- The last step of a request, which is answered with success. -/
structure CompletesRequest (libraries : AuthLibraries) (state : AuthState) (id : Nat)
    (request : Request) (next : AuthState)
    : Prop where
  running : state.requests[id]? = some request
  notOver : request.phase.isOver = false
  taken : ∃ entropy, stepAuth libraries state (.act id entropy) = some next
  answered : (next.requests[id]?).any (·.phase.hasSucceeded) = true

/-- The next step of a request, if it is answered with success by it. -/
def lastStep (libraries : AuthLibraries) (state : AuthState) (id : Nat) (entropy : Entropy)
    : Option (Request × AuthState) := do
  let request ← state.requests[id]?
  let next ← stepAuth libraries state (.act id entropy)
  if !request.phase.isOver && (next.requests[id]?).any (·.phase.hasSucceeded) then
    return (request, next)
  else none

theorem completes_of_lastStep (last : lastStep libraries state id entropy = some (request, next))
    : CompletesRequest libraries state id request next := by
  obtain ⟨running, found, last⟩ := Option.bind_eq_some_iff.mp last
  obtain ⟨after, taken, last⟩ := Option.bind_eq_some_iff.mp last
  split at last
  · rename_i answered
    cases last
    obtain ⟨notOver, answered⟩ := Bool.and_eq_true_iff.mp answered
    exact ⟨found, (Bool.not_eq_true' _).mp notOver, ⟨entropy, taken⟩, answered⟩
  · cases last

/-- A handler is always in one of its own phases. -/
theorem inOwnPhase_of_reachable (reachable : ReachableAuth libraries state)
    : ∀ request ∈ state.requests, request.inOwnPhase = true := by
  refine reachable.invariant (fun state => ∀ request ∈ state.requests, request.inOwnPhase = true)
    (fun state initial request member => ?_)
    fun state action next _ own taken request member => ?_
  · rw [initial.requests] at member
    exact (List.not_mem_nil member).elim
  · obtain ⟨id, found⟩ := List.getElem?_of_mem member
    cases authStepped_request (stepAuth_cases taken) found with
    | same before => exact own request (List.mem_of_getElem? before)
    | arrived _ _ isRequest => exact isRequest ▸ startRequestOf_inOwnPhase _ _
    | ended before finished isRequest =>
        cases isRequest
        refine Request.inOwnPhase_of_notHandling fun current isPhase => ?_
        obtain rfl := isPhase
        cases finished
    | stepped before steps => exact steps.inOwnPhase (own _ (List.mem_of_getElem? before))

/-- A handler with statements of its own is not done when it begins. -/
theorem startHandler_notDone {endpoint : Endpoint}
    (handles : ∀ extractor, endpoint ≠ .other extractor) (rawToken : String)
    (context : BearerTokenContext)
    : (startHandler endpoint rawToken context).hasSucceeded = false := by
  have notDone (next : HandlerPhase) (checked : Except ApiError Unit)
      : (Phase.ofChecked next checked).hasSucceeded = false := by
    cases checked <;> rfl
  cases endpoint with
  | other extractor => exact absurd rfl (handles extractor)
  | issueToken _ | issueAdminToken _ | logoutAdmin => rfl
  | _ => exact notDone _ _

/-- A request is answered with success by the last step of its handler. -/
theorem CompletesRequest.handler (completes : CompletesRequest libraries state id request next)
    (reachable : ReachableAuth libraries state)
    (handles : ∀ extractor, request.endpoint ≠ .other extractor)
    : ∃ current,
        request.phase = .handle current
        ∧ request.endpoint.runs current = true
        ∧ HandlerStepped libraries state.server request current next.server
            (.responded (.ok ()))
        ∧ next.requests
          = state.requests.set id { request with phase := .responded (.ok ()) } := by
  obtain ⟨entropy, taken⟩ := completes.taken
  have answered := completes.answered
  obtain ⟨running, found, acted⟩ := Option.bind_eq_some_iff.mp taken
  obtain rfl := Option.some.inj (completes.running.symm.trans found)
  obtain ⟨⟨server, stepped⟩, steps, isNext⟩ := Option.bind_eq_some_iff.mp acted
  cases isNext
  have bound := (List.getElem?_eq_some_iff.mp found).1
  rw [AuthState.setRequest, List.getElem?_set_self bound, Option.any_some] at answered
  have notAuthenticated (context : BearerTokenContext)
      : (request.authenticated context).phase.hasSucceeded = false := by
    rcases request.authenticated_cases context with same | ⟨phase, failed, same⟩
    · rw [same]
      exact startHandler_notDone handles _ _
    · rw [same]
      cases phase with
      | responded response =>
          cases response with
          | ok _ => cases failed
          | error _ => rfl
      | _ => rfl
  cases requestStep_cases steps with
  | @lookedUp lookup phase =>
      cases found
        : (lookup.cached libraries state.server.cache state.server.now request.rawToken).1 with
      | none =>
          rw [found] at answered
          cases lookup <;> cases answered
      | some context =>
          rw [found] at answered
          exact Bool.noConfusion (answered.symm.trans (notAuthenticated context))
  | inserted pending => exact Bool.noConfusion (answered.symm.trans (notAuthenticated _))
  | foundKind | rejected | read => cases answered
  | @handled current _ next phase handled =>
      obtain rfl : next = .responded (.ok ()) := by
        cases next with
        | responded response =>
            cases response with
            | ok _ => rfl
            | error _ => cases answered
        | _ => cases answered
      have own := inOwnPhase_of_reachable reachable request (List.mem_of_getElem? found)
      refine ⟨current, phase, ?_, handlerStep_cases handled, rfl⟩
      simpa only [Request.inOwnPhase, phase] using own

end AlonSentinel.System
