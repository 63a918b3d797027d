import AlonSentinel.System.SequentialRequests

/-! Principals that are deactivated or deleted, with requests served one after the other. The
handlers for admin users end the cached contexts of the user; those for API clients leave them.
-/

namespace AlonSentinel.System

open Api
open Auth
open Domain
open KeyedTable
open Relation
open TransitionSystem

variable {libraries : AuthLibraries} {server after : AuthServer} {request : Request}
  {state stopped next : AuthState} {action : AuthAction} {id : Nat} {principal : Principal}
  {token : IssuedToken}

------------------------------------------------------------
-- Statements
------------------------------------------------------------

/-- The principal that a handler deactivates or deletes. -/
def stopped? : Endpoint → Option Principal
  | .deleteAdminUser userId => some ⟨.adminUser, userId⟩
  | .deleteApiClient clientId => some ⟨.apiClient, clientId⟩
  | endpoint => deactivated? endpoint

def isDeletion : Endpoint → Bool
  | .deleteAdminUser _ | .deleteApiClient _ => true
  | _ => false

/-- Requests one after the other, none of which activates the principal again. After a deletion
all of them are admitted.
-/
def KeepsStopped (endpoint : Endpoint) (principal : Principal) (state : AuthState)
    (action : AuthAction) (next : AuthState)
    : Prop :=
  Sequential state action next
  ∧ (isDeletion endpoint = true ∨ next.server.db.isActive principal = false)

instance (endpoint : Endpoint) (principal : Principal) (state : AuthState) (action : AuthAction)
    (next : AuthState)
    : Decidable (KeepsStopped endpoint principal state action next) :=
  inferInstanceAs (Decidable (_ ∧ _))

/-- No later request is authenticated with a token that was issued to the principal. -/
def TokensStopped (libraries : AuthLibraries) (stopped : AuthState) (endpoint : Endpoint)
    (principal : Principal)
    : Prop :=
  ∀ later,
    ReflTransGen (NextWhere (stepAuth libraries) (KeepsStopped endpoint principal)) stopped later
    → ∀ token ∈ stopped.server.issued,
        token.owner = principal
        → NoneAuthenticated token.rawToken stopped.requests.length later

------------------------------------------------------------
-- Deleted principals
------------------------------------------------------------

/-- The id of the principal was issued, and its row is deleted. -/
structure Gone (db : AuthDatabase) (principal : Principal) : Prop where
  user : principal.kind = .adminUser → db.adminUsers.Retired principal.id
  client : principal.kind = .apiClient → db.apiClients.Retired principal.id

theorem Gone.inactive {db : AuthDatabase} (gone : Gone db principal)
    : db.isActive principal = false := by
  obtain ⟨kind, id⟩ := principal
  cases kind with
  | adminUser => exact congrArg (Option.any AdminUser.isActive) (gone.user rfl).find?
  | apiClient => exact congrArg (Option.any ApiClient.isActive) (gone.client rfl).find?

theorem gone_of_deletedUser {db after : AuthDatabase} {userId : Int} {user : AdminUser}
    (deleted : deleteAdminUser db userId = (some user, after))
    : Gone after ⟨.adminUser, userId⟩ := by
  obtain ⟨found, rfl⟩ := deleteAdminUser_some deleted
  exact ⟨fun _ => SerialTable.retired_delete found, nofun⟩

theorem gone_of_deletedClient {db after : AuthDatabase} {clientId : Int}
    (deleted : deleteApiClient db clientId = (true, after))
    : Gone after ⟨.apiClient, clientId⟩ := by
  obtain ⟨⟨_, found⟩, rfl⟩ := deleteApiClient_true deleted
  exact ⟨nofun, fun _ => SerialTable.retired_delete found⟩

/-- A deleted principal never comes back. -/
theorem Gone.effect (gone : Gone server.db principal)
    (effect : ServerEffect libraries server request after)
    : Gone after.db principal := by
  cases effect with
  | same | shrunk | inserted | revoked => exact ⟨gone.user, gone.client⟩
  | issued stored =>
      obtain ⟨_, rfl, _, _⟩ := createToken_ok stored
      exact ⟨gone.user, gone.client⟩
  | createdUser _ _ _ created =>
      obtain ⟨_, _, rfl, rows, nextId⟩ := createAdminUserWithRoles_ok created
      exact ⟨fun isUser => (gone.user isUser).append rows rfl nextId, gone.client⟩
  | updatedUser _ _ updated =>
      obtain ⟨_, rfl⟩ := updateAdminUser_ok updated
      exact ⟨fun isUser => (gone.user isUser).update _ _ _, gone.client⟩
  | deletedUser _ _ deleted =>
      obtain ⟨_, rfl⟩ := deleteAdminUser_some deleted
      exact ⟨fun isUser => (gone.user isUser).delete _, gone.client⟩
  | createdClient created =>
      obtain ⟨_, rfl⟩ := createApiClient_ok created
      exact ⟨gone.user, fun isClient => (gone.client isClient).append rfl rfl rfl⟩
  | setClient isSet =>
      obtain ⟨_, rfl⟩ := setApiClient_some isSet
      exact ⟨gone.user, fun isClient => (gone.client isClient).update _ _ _⟩
  | deletedClient deleted =>
      obtain ⟨_, rfl⟩ := deleteApiClient_true deleted
      exact ⟨gone.user, fun isClient => (gone.client isClient).delete _⟩
  | others adminUsers apiClients _ =>
      exact ⟨adminUsers ▸ gone.user, apiClients ▸ gone.client⟩

theorem Gone.step (gone : Gone state.server.db principal)
    (steps : AuthStepped libraries state next)
    : Gone next.server.db principal := by
  cases steps with
  | acted _ steps => exact gone.effect (requestStepped_effect steps)
  | _ => exact ⟨gone.user, gone.client⟩

------------------------------------------------------------
-- What the handlers leave
------------------------------------------------------------

/-- What the last step of a handler that stops a principal finds and leaves. -/
structure StopsPrincipal (server after : AuthServer) (endpoint : Endpoint) (principal : Principal)
    : Prop where
  inactive : after.db.isActive principal = false
  gone : isDeletion endpoint = true → Gone after.db principal
  noneLive : principal.kind = .adminUser → NoneLive server principal
  cache : after.cache = server.cache
  now : after.now = server.now

theorem stops_last {current : HandlerPhase} (own : InTurn server request)
    (isPhase : request.phase = .handle current) (runs : request.endpoint.runs current = true)
    (isStopped : stopped? request.endpoint = some principal)
    (steps : HandlerStepped libraries server request current after (.responded (.ok ())))
    : StopsPrincipal server after request.endpoint principal := by
  cases steps with
  | @deletedUser userId _ _ endpoint deleted =>
      rw [endpoint] at isStopped
      obtain rfl := Option.some.inj isStopped
      have noneLive := own.managed userId (by rw [endpoint]; rfl)
      rw [isPhase] at noneLive
      have gone := gone_of_deletedUser deleted
      exact ⟨gone.inactive, fun _ => gone, fun _ => noneLive, rfl, rfl⟩
  | @deletedClient clientId _ endpoint deleted =>
      rw [endpoint] at isStopped
      obtain rfl := Option.some.inj isStopped
      have gone := gone_of_deletedClient deleted
      exact ⟨gone.inactive, fun _ => gone, nofun, rfl, rfl⟩
  | responded =>
      have isDeactivated : deactivated? request.endpoint = some principal := by
        revert runs isStopped
        cases request.endpoint <;> simp [Endpoint.runs, stopped?]
      refine ⟨own.deactivated principal isDeactivated (by rw [isPhase]; rfl),
        fun deletes => ?_, fun isUser => ?_, rfl, rfl⟩
      · revert runs deletes
        cases request.endpoint <;> simp [Endpoint.runs, isDeletion]
      · cases endpoint : request.endpoint with
        | updateAdminUser userId payload =>
            have noneLive := own.managed userId (by rw [endpoint]; rfl)
            simp only [endpoint, deactivated?] at isDeactivated
            split at isDeactivated
            · cases isDeactivated
            · cases isDeactivated
              rw [isPhase] at noneLive
              exact noneLive
        | updateApiClient clientId payload =>
            simp only [endpoint, deactivated?] at isDeactivated
            split at isDeactivated
            · cases isDeactivated
            · cases isDeactivated
              cases isUser
        | _ =>
            rw [endpoint] at isDeactivated
            cases isDeactivated
  | _ =>
      revert runs isStopped
      cases request.endpoint <;> simp [Endpoint.runs, stopped?, deactivated?]

/-- What a request that stops a principal leaves when it is answered with success. -/
theorem stops_of_completes (reachable : ReachableInTurn libraries state)
    (collisionFree : libraries.CollisionFree)
    (completes : CompletesRequest libraries state id request stopped)
    (isStopped : stopped? request.endpoint = some principal)
    : StopsPrincipal state.server stopped.server request.endpoint principal
      ∧ stopped.isIdle = true := by
  have served := servedInTurn_of_reachable collisionFree reachable
  have handles (extractor : Extractor) : request.endpoint ≠ .other extractor := by
    intro same
    rw [same] at isStopped
    cases isStopped
  obtain ⟨current, isPhase, runs, steps, requests⟩ :=
    completes.handler reachable.reachable handles
  have own := served.inTurn request (List.mem_of_getElem? completes.running)
  refine ⟨stops_last own isPhase runs isStopped steps, List.all_eq_true.mpr fun late member => ?_⟩
  rw [requests] at member
  obtain ⟨other, found⟩ := List.getElem?_of_mem member
  have changed
      : (state.setRequest id { request with phase := .responded (.ok ()) }).requests[other]?
        = some late :=
    found
  rcases setRequest_cases changed with ⟨_, rfl⟩ | before
  · rfl
  · by_cases same : other = id
    · rw [same, List.getElem?_set_self (List.getElem?_eq_some_iff.mp completes.running).1] at found
      exact Option.some.inj found ▸ rfl
    · exact served.oneAtATime.isOver completes.running completes.notOver before same

------------------------------------------------------------
-- When the tokens of a principal stop
------------------------------------------------------------

/-- The database rejects the tokens of an inactive principal. -/
theorem unreadable_of_inactive (collisionFree : libraries.CollisionFree)
    (ledger : ServerLedger libraries server) (isIssued : token ∈ server.issued)
    (inactive : server.db.isActive token.owner = false)
    : Unreadable libraries token.rawToken server := by
  intro context read
  obtain ⟨other, member, describes, same⟩ :=
    ledger.described_of_read collisionFree (ledger.used token isIssued) read
  obtain rfl := ledger.textDetermines other member token isIssued same
  have active : server.db.isActive other.owner = true := describes.owner ▸ read.active
  rw [inactive] at active
  cases active

/-- A principal without live contexts has no token that is cached. -/
theorem noneCached_of_noneLive (collisionFree : libraries.CollisionFree)
    (ledger : ServerLedger libraries server) (isIssued : token ∈ server.issued)
    (noneLive : NoneLive server token.owner)
    : NoneCached libraries token.rawToken server := by
  intro key entry isKey found
  obtain ⟨other, member, describes, same⟩ :=
    ledger.described_of_cached collisionFree (ledger.used token isIssued) isKey found
  obtain rfl := ledger.textDetermines other member token isIssued same
  exact noneLive key entry found describes.owner.symm

/-- Without a live context of the principal, its tokens stop. -/
theorem tokensStopped_of_noneLive (collisionFree : libraries.CollisionFree)
    (reachable : ReachableAuth libraries stopped) {endpoint : Endpoint}
    (idle : stopped.isIdle = true) (inactive : stopped.server.db.isActive principal = false)
    (gone : isDeletion endpoint = true → Gone stopped.server.db principal)
    (noneLive : NoneLive stopped.server principal)
    : TokensStopped libraries stopped endpoint principal := by
  intro later path token isIssued owned
  subst owned
  have ledger := tokenLedger_of_reachable collisionFree reachable
  have ended : Ended libraries token.rawToken stopped.requests.length stopped := by
    refine ⟨fun id _ after found => ?_, fun id _ after found => ?_,
      fun request member _ context pending => ?_,
      noneCached_of_noneLive collisionFree ledger.server isIssued noneLive⟩
    · rw [List.getElem?_eq_none after] at found
      cases found
    · rw [List.getElem?_eq_none after] at found
      cases found
    · have finished := isOver_of_isIdle idle member
      rw [pending] at finished
      cases finished
  have kept
      : ReachableAuth libraries later
        ∧ token ∈ later.server.issued
        ∧ later.server.db.isActive token.owner = false
        ∧ (isDeletion endpoint = true → Gone later.server.db token.owner)
        ∧ Ended libraries token.rawToken stopped.requests.length later := by
    refine kept_along
      (fun state =>
        ReachableAuth libraries state
        ∧ token ∈ state.server.issued
        ∧ state.server.db.isActive token.owner = false
        ∧ (isDeletion endpoint = true → Gone state.server.db token.owner)
        ∧ Ended libraries token.rawToken stopped.requests.length state)
      (fun state action next holds taken admitted => ?_)
      ⟨reachable, isIssued, inactive, gone, ended⟩ path
    obtain ⟨reachable, isIssued, inactive, gone, ended⟩ := holds
    have ledger := tokenLedger_of_reachable collisionFree reachable
    have steps := stepAuth_cases taken
    have stillGone := fun deletes => (gone deletes).step steps
    exact ⟨reachable.next taken, stepAuth_issued taken isIssued,
      admitted.2.elim (fun deletes => (stillGone deletes).inactive) id, stillGone,
      ended.step collisionFree ledger (ledger.server.used token isIssued)
        (unreadable_of_inactive collisionFree ledger.server isIssued inactive) steps⟩
  exact kept.2.2.2.2.authenticated

/-- A live context of the principal lets the next request in. -/
theorem not_tokensStopped_of_live (collisionFree : libraries.CollisionFree)
    (reachable : ReachableAuth libraries stopped) {endpoint : Endpoint}
    (idle : stopped.isIdle = true) (inactive : stopped.server.db.isActive principal = false)
    {key : AuthTokenCacheKey} {entry : AuthTokenCacheEntry}
    (stored : stopped.server.cache.peek key = some entry)
    (owned : entry.context.owner = principal)
    (live : entry.isDead stopped.server.now stopped.server.cache.ttl = false)
    (entropy : Entropy)
    : ¬TokensStopped libraries stopped endpoint principal := by
  intro stops
  have ledger := tokenLedger_of_reachable collisionFree reachable
  obtain ⟨token, isIssued, describes, isKey⟩ := ledger.server.cached key entry stored
  obtain ⟨started, admitted, starts, admits, sameServer, sameDb, authenticated⟩ :=
    authenticated_of_live ledger isIssued isKey stored live entropy
  refine authenticated (stops admitted (.tail (.single ⟨_, starts, ?_⟩) ⟨_, admits, ?_⟩) token
    isIssued (describes.owner.trans owned))
  · exact ⟨idle, .inr (sameServer ▸ inactive)⟩
  · exact ⟨trivial, .inr (sameDb ▸ inactive)⟩

/-- The tokens of a principal that was deactivated or deleted stop if and only if it is an admin
user, or none of its contexts is cached and alive.
-/
theorem tokensStopped_iff (collisionFree : libraries.CollisionFree)
    (reachable : ReachableInTurn libraries state)
    (completes : CompletesRequest libraries state id request stopped)
    (isStopped : stopped? request.endpoint = some principal)
    : TokensStopped libraries stopped request.endpoint principal
      ↔ principal.kind = .adminUser ∨ NoneLive state.server principal := by
  obtain ⟨stops, idle⟩ := stops_of_completes reachable collisionFree completes isStopped
  obtain ⟨entropy, taken⟩ := completes.taken
  have after := reachable.reachable.next taken
  constructor
  · intro tokensStopped
    refine or_iff_not_imp_right.mpr fun someLive => ?_
    unfold NoneLive at someLive
    push Not at someLive
    obtain ⟨key, entry, stored, owned, live⟩ := someLive
    rw [← stops.cache] at stored
    rw [← stops.cache, ← stops.now] at live
    exact absurd tokensStopped (not_tokensStopped_of_live collisionFree after idle
      stops.inactive stored owned (Bool.eq_false_iff.mpr live) entropy)
  · intro isKept
    have noneLive : NoneLive state.server principal :=
      isKept.elim stops.noneLive fun noneLive => noneLive
    refine tokensStopped_of_noneLive collisionFree after idle stops.inactive stops.gone
      fun key entry stored owned => ?_
    rw [stops.cache] at stored
    rw [stops.cache, stops.now]
    exact noneLive key entry stored owned

------------------------------------------------------------
-- A client that is deactivated
------------------------------------------------------------

/-- A client and an admin user log in, and the client makes a request. -/
def clientIsCached : List AuthAction :=
  .start (.issueToken ⟨"ac_shop", "secret"⟩) noHeaders :: actTimes 0 1 3
    ++ .start (.issueAdminToken ⟨"admin@shop.test", "secret"⟩) noHeaders :: actTimes 1 2 3
    ++ .start (.other .authenticatedRequest) (bearerHeaders (smallToken 1)) :: actTimes 2 1 4

/-- The admin user deactivates the client, up to the last step. -/
def clientIsDeactivated : List AuthAction :=
  .start (.updateApiClient 1 ⟨"Shop", none, false⟩) (bearerHeaders (smallToken 2))
    :: actTimes 3 2 4

def clientReturnsAfterwards : List AuthAction :=
  [.start (.other .authenticatedRequest) (bearerHeaders (smallToken 1)),
    .act 4 (smallEntropy 1)]

def managedShop : AuthState :=
  smallAuthState (smallAdmins ["admin@shop.test"]) smallClients

def deactivatedClient : Bool :=
  (runWhere (stepAuth smallAuthLibraries) Sequential managedShop
      (clientIsCached ++ clientIsDeactivated)).any fun state =>
    (lastStep smallAuthLibraries state 3 (smallEntropy 2)).any fun (request, stopped) =>
      (runWhere (stepAuth smallAuthLibraries) (KeepsStopped request.endpoint ⟨.apiClient, 1⟩)
          stopped clientReturnsAfterwards).any fun later =>
        stopped? request.endpoint = some ⟨.apiClient, 1⟩
          && (stopped.server.issued.any fun token =>
            token.owner = ⟨.apiClient, 1⟩ && token.rawToken = smallToken 1)
          && stopped.requests.length ≤ 4
          && (later.requests[4]?).any fun late =>
            late.rawToken = smallToken 1 && late.context.isSome

theorem deactivatedClient_runs : deactivatedClient = true := by decide +kernel

/-- The deactivated client is let in by its cached context. -/
theorem deactivatedClient_returns
    : ∃ state request stopped,
        runWhere (stepAuth smallAuthLibraries) Sequential managedShop
            (clientIsCached ++ clientIsDeactivated)
          = some state
        ∧ ReachableInTurn smallAuthLibraries state
        ∧ CompletesRequest smallAuthLibraries state 3 request stopped
        ∧ stopped? request.endpoint = some ⟨.apiClient, 1⟩
        ∧ ¬TokensStopped smallAuthLibraries stopped request.endpoint ⟨.apiClient, 1⟩ := by
  obtain ⟨state, ran, scenario⟩ := (Option.any_eq_true _ _).mp deactivatedClient_runs
  obtain ⟨⟨request, stopped⟩, last, scenario⟩ := (Option.any_eq_true _ _).mp scenario
  obtain ⟨later, returns, scenario⟩ := (Option.any_eq_true _ _).mp scenario
  simp only [Bool.and_eq_true, decide_eq_true_eq] at scenario
  obtain ⟨⟨⟨isStopped, isIssued⟩, length⟩, admitted⟩ := scenario
  obtain ⟨token, member, isToken⟩ := List.any_eq_true.mp isIssued
  simp only [Bool.and_eq_true, decide_eq_true_eq] at isToken
  refine ⟨state, request, stopped, ran, ⟨_, smallAuthState_initial _ _, path_of_runWhere ran⟩,
    completes_of_lastStep last, isStopped, fun stops => ?_⟩
  refine not_noneAuthenticated length ?_
    (stops later (path_of_runWhere returns) token member isToken.1)
  simpa [isToken.2] using admitted

/-- Two admin users log in, and one of them makes a request. -/
def userIsCached : List AuthAction :=
  .start (.issueAdminToken ⟨"guest@shop.test", "secret"⟩) noHeaders :: actTimes 0 1 3
    ++ .start (.issueAdminToken ⟨"admin@shop.test", "secret"⟩) noHeaders :: actTimes 1 2 3
    ++ .start (.other .authenticatedRequest) (bearerHeaders (smallToken 1)) :: actTimes 2 1 4

/-- The other one deactivates that user, up to the last step. -/
def userIsDeactivated : List AuthAction :=
  .start (.updateAdminUser 2 ⟨"guest@shop.test", "Guest", none, false, []⟩)
      (bearerHeaders (smallToken 2))
    :: actTimes 3 2 7

def sharedShop : AuthState :=
  smallAuthState (smallAdmins ["admin@shop.test", "guest@shop.test"]) .empty

def deactivatedUser : Bool :=
  (runWhere (stepAuth smallAuthLibraries) Sequential sharedShop
      (userIsCached ++ userIsDeactivated)).any fun state =>
    (lastStep smallAuthLibraries state 3 (smallEntropy 2)).any fun (request, stopped) =>
      stopped? request.endpoint = some ⟨.adminUser, 2⟩
        && stopped.server.issued.any (·.owner = ⟨.adminUser, 2⟩)

theorem deactivatedUser_runs : deactivatedUser = true := by decide +kernel

theorem tokensStopped_deactivatedUser
    : ∃ state request stopped,
        runWhere (stepAuth smallAuthLibraries) Sequential sharedShop
            (userIsCached ++ userIsDeactivated)
          = some state
        ∧ CompletesRequest smallAuthLibraries state 3 request stopped
        ∧ (∃ token ∈ stopped.server.issued, token.owner = ⟨.adminUser, 2⟩)
        ∧ TokensStopped smallAuthLibraries stopped request.endpoint ⟨.adminUser, 2⟩ := by
  obtain ⟨state, ran, scenario⟩ := (Option.any_eq_true _ _).mp deactivatedUser_runs
  obtain ⟨⟨request, stopped⟩, last, scenario⟩ := (Option.any_eq_true _ _).mp scenario
  simp only [Bool.and_eq_true, decide_eq_true_eq, List.any_eq_true] at scenario
  obtain ⟨isStopped, isIssued⟩ := scenario
  have completes := completes_of_lastStep last
  exact ⟨state, request, stopped, ran, completes, isIssued,
    (tokensStopped_iff smallAuthLibraries_collisionFree
      ⟨_, smallAuthState_initial _ _, path_of_runWhere ran⟩ completes isStopped).mpr (.inl rfl)⟩

end AlonSentinel.System
