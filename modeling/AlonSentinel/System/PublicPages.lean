import AlonSentinel.Api.PublicStatusPage
import AlonSentinel.Foundation.Histories

/-! Requests for public status pages at one server. The tables and the clocks may change in any way
between two steps, and the queries of a request are answered one by one in between.
-/

namespace AlonSentinel.System

open Api
open Caching
open ConcurrentQueries
open Domain
open StdTime
open TransitionSystem

------------------------------------------------------------
-- Steps
------------------------------------------------------------

inductive PageAnswer where
  | tooManyRequests (message : String)
  | failed (error : ApiError)
  | page (body : PublicStatusPageResponse)

def PageAnswer.of : Except ApiError PublicStatusPageResponse → PageAnswer
  | .ok body => .page body
  | .error error => .failed error

inductive PagePhase where
  | arrived
  | admitted
  | fetching (inquiry : PageInquiry (Except ApiError PublicStatusPageResponse))
  | answered (answer : PageAnswer)

structure PageRequest where
  ipAddress : String
  slug : String
  phase : PagePhase

structure PageServer where
  store : PageStore
  limiter : AuthRateLimiter
  cache : StatusPageCache
  now : Instant
  requests : List PageRequest

/-- What a request does next; a query that fails ends it. -/
inductive PageMove where
  | checkRate
  | lookUp
  | advance (turn : Turn)
  | fail
  | finish

inductive PageAction where
  | alter (store : PageStore)
  | tick (passed : Nat)
  | arrive (ipAddress slug : String)
  | request (id : Nat) (move : PageMove)

def PageServer.setPhase (server : PageServer) (id : Nat) (phase : PagePhase) : PageServer :=
  { server with requests := server.requests.modify id fun request => { request with phase } }

/-- The server that stores a body before it answers with it. -/
def PageServer.keep (server : PageServer) (slug : String)
    : Except ApiError PublicStatusPageResponse → PageServer
  | .ok body => { server with cache := server.cache.set server.now slug body }
  | .error _ => server

/-- The sections of the handler, one at a time. -/
def PageServer.move (calendar : SessionCalendar) (chrono : Rfc3339) (server : PageServer) (id : Nat)
    (request : PageRequest)
    : PageMove → PagePhase → Option PageServer
  | .checkRate, .arrived =>
      let (accepted, limiter) := server.limiter.check server.now "status_page" request.ipAddress
      let phase : PagePhase :=
        if accepted then .admitted
        else .answered (.tooManyRequests "too many requests")
      some ({ server with limiter }.setPhase id phase)
  | .lookUp, .admitted =>
      let (cached, cache) := server.cache.get server.now request.slug
      let phase : PagePhase :=
        match cached with
        | some body => .answered (.page body)
        | none => .fetching (getPublicStatusPage chrono request.slug)
      some ({ server with cache }.setPhase id phase)
  | .advance turn, .fetching inquiry =>
      (inquiry.advance (server.store.answer calendar) turn).map fun inquiry =>
        server.setPhase id (.fetching inquiry)
  | .fail, .fetching _ =>
      some (server.setPhase id (.answered (.failed (.internal internalServerErrorMessage))))
  | .finish, .fetching inquiry =>
      inquiry.given.map fun result =>
        (server.keep request.slug result).setPhase id (.answered (.of result))
  | _, _ => none

def pageStep (calendar : SessionCalendar) (chrono : Rfc3339) (server : PageServer)
    : PageAction → Option PageServer
  | .alter store => some { server with store }
  | .tick passed => some { server with now := server.now + passed }
  | .arrive ipAddress slug =>
      some { server with requests := server.requests ++ [{ ipAddress, slug, phase := .arrived }] }
  | .request id move =>
      server.requests[id]?.bind fun request =>
        server.move calendar chrono id request move request.phase

/-- A server starts with an empty cache and without requests. -/
structure PageServer.Starts (server : PageServer) : Prop where
  limiter : server.limiter = .new 60 (.fromSecs 60)
  cache : server.cache = .new 256 (by decide) (.fromSecs 30)
  requests : server.requests = []

/-- What a request does to its phase. -/
inductive PhaseStep (calendar : SessionCalendar) (chrono : Rfc3339) (server : PageServer)
    (slug : String)
    : PagePhase → PagePhase → Prop
  | refused
    : PhaseStep calendar chrono server slug .arrived
        (.answered (.tooManyRequests "too many requests"))
  | admitted : PhaseStep calendar chrono server slug .arrived .admitted
  | hit {entry : StatusPageCacheEntry} (found : server.cache.inner.peek slug = some entry)
      (fresh : durationSince server.now entry.cachedAt < server.cache.ttl)
    : PhaseStep calendar chrono server slug .admitted (.answered (.page entry.bytes))
  | miss
    : PhaseStep calendar chrono server slug .admitted
        (.fetching (getPublicStatusPage chrono slug))
  | advanced {inquiry after : PageInquiry (Except ApiError PublicStatusPageResponse)} {turn : Turn}
      (advanced : inquiry.advance (server.store.answer calendar) turn = some after)
    : PhaseStep calendar chrono server slug (.fetching inquiry) (.fetching after)
  | failed {inquiry : PageInquiry (Except ApiError PublicStatusPageResponse)}
    : PhaseStep calendar chrono server slug (.fetching inquiry)
        (.answered (.failed (.internal internalServerErrorMessage)))
  | finished {inquiry : PageInquiry (Except ApiError PublicStatusPageResponse)}
      {result : Except ApiError PublicStatusPageResponse} (given : inquiry.given = some result)
    : PhaseStep calendar chrono server slug (.fetching inquiry) (.answered (.of result))

/-- A request has the body of an entry that is stored now. -/
structure JustRendered (server : PageServer) (slug : String) (entry : StatusPageCacheEntry)
    : Prop where
  cachedNow : entry.cachedAt = server.now
  rendered
    : ∃ (id : Nat) (request : PageRequest)
        (inquiry : PageInquiry (Except ApiError PublicStatusPageResponse)),
        server.requests[id]? = some request
        ∧ request.slug = slug
        ∧ request.phase = .fetching inquiry
        ∧ inquiry.given = some (.ok entry.bytes)

/-- All that a step can do. -/
structure PageStepView (calendar : SessionCalendar) (chrono : Rfc3339) (before after : PageServer)
    : Prop where
  requests
    : ∀ (id : Nat) (request : PageRequest),
        after.requests[id]? = some request
        → before.requests[id]? = some request
          ∨ before.requests[id]? = none ∧ request.phase = .arrived
          ∨ ∃ former : PageRequest,
              before.requests[id]? = some former
              ∧ former.slug = request.slug
              ∧ PhaseStep calendar chrono before request.slug former.phase request.phase
  cache
    : ∀ (slug : String) (entry : StatusPageCacheEntry),
        after.cache.inner.peek slug = some entry
        → before.cache.inner.peek slug = some entry ∨ JustRendered before slug entry
  ttl : after.cache.ttl = before.cache.ttl
  now : before.now ≤ after.now

variable {calendar : SessionCalendar} {chrono : Rfc3339} {server before after : PageServer}
  {action : PageAction} {id : Nat} {request : PageRequest} {slug : String}
  {body : PublicStatusPageResponse} {history older : List PageServer}

/-- Only the request itself changes its phase. -/
theorem of_getElem?_setPhase {other : Nat} {phase : PagePhase}
    (found : (server.setPhase id phase).requests[other]? = some request)
    : server.requests[other]? = some request
      ∨ other = id
        ∧ ∃ former,
            server.requests[other]? = some former
            ∧ former.slug = request.slug
            ∧ request.phase = phase := by
  unfold PageServer.setPhase at found
  rw [List.getElem?_modify] at found
  obtain ⟨former, isFormer, changed⟩ := Option.map_eq_some_iff.mp found
  split at changed
  · next same =>
      subst same
      cases changed
      exact .inr ⟨rfl, former, isFormer, rfl, rfl⟩
  · cases changed
    exact .inl isFormer

/-- What a move leaves as it is besides the phases; it stores a body only where it has one. -/
structure KeepsRequests (before middle : PageServer) : Prop where
  requests : middle.requests = before.requests
  cache
    : ∀ (slug : String) (entry : StatusPageCacheEntry),
        middle.cache.inner.peek slug = some entry
        → before.cache.inner.peek slug = some entry ∨ JustRendered before slug entry
  ttl : middle.cache.ttl = before.cache.ttl
  now : middle.now = before.now

/-- What is cached after a body was stored is that body or was there before. -/
theorem peek_of_peek_keep {result : Except ApiError PublicStatusPageResponse}
    {entry : StatusPageCacheEntry} {other : String}
    (found : (server.keep slug result).cache.inner.peek other = some entry)
    : server.cache.inner.peek other = some entry
      ∨ entry.cachedAt = server.now ∧ slug = other ∧ result = .ok entry.bytes := by
  cases result with
  | error error => exact .inl found
  | ok body =>
      rcases LruCache.peek_of_peek_put found with ⟨isKey, rfl⟩ | ⟨_, kept⟩
      · exact .inr ⟨rfl, isKey.symm, rfl⟩
      · exact .inl kept

/-- A move is a step of the phase of its request. -/
theorem phaseStep_of_move {move : PageMove} (isRequest : before.requests[id]? = some request)
    (taken : before.move calendar chrono id request move request.phase = some after)
    : ∃ middle phase,
        KeepsRequests before middle
        ∧ PhaseStep calendar chrono before request.slug request.phase phase
        ∧ after = middle.setPhase id phase := by
  unfold PageServer.move at taken
  split at taken
  · rename_i isPhase
    cases taken
    let limiter := (before.limiter.check before.now "status_page" request.ipAddress).2
    refine ⟨{ before with limiter }, _, ⟨rfl, fun _ _ => .inl, rfl, rfl⟩, ?_, rfl⟩
    rw [isPhase]
    split
    · exact .admitted
    · exact .refused
  · rename_i isPhase
    cases taken
    let cache := (before.cache.get before.now request.slug).2
    refine ⟨{ before with cache }, _, ⟨rfl, fun slug entry found => .inl ?_, rfl, rfl⟩, ?_, rfl⟩
    · exact LruCache.peek_promote.symm.trans found
    · rw [isPhase]
      change PhaseStep calendar chrono before request.slug .admitted
        (match ((before.cache.inner.peek request.slug).filter fun entry =>
            decide (durationSince before.now entry.cachedAt < before.cache.ttl)).map (·.bytes) with
          | some body => .answered (.page body)
          | none => .fetching (getPublicStatusPage chrono request.slug))
      cases cached : (before.cache.inner.peek request.slug).filter fun entry =>
          decide (durationSince before.now entry.cachedAt < before.cache.ttl) with
      | none => exact .miss
      | some entry =>
          obtain ⟨found, fresh⟩ := Option.filter_eq_some_iff.mp cached
          exact .hit found (of_decide_eq_true fresh)
  · rename_i turn inquiry isPhase
    obtain ⟨advanced, isAdvanced, rfl⟩ := Option.map_eq_some_iff.mp taken
    exact ⟨_, _, ⟨rfl, fun _ _ => .inl, rfl, rfl⟩, isPhase ▸ .advanced isAdvanced, rfl⟩
  · rename_i isPhase
    cases taken
    exact ⟨_, _, ⟨rfl, fun _ _ => .inl, rfl, rfl⟩, isPhase ▸ .failed, rfl⟩
  · rename_i inquiry isPhase
    obtain ⟨result, given, rfl⟩ := Option.map_eq_some_iff.mp taken
    refine ⟨_, _, ⟨?_, fun slug entry found => ?_, ?_, ?_⟩, isPhase ▸ .finished given, rfl⟩
    · cases result <;> rfl
    · rcases peek_of_peek_keep found with kept | ⟨isNow, isSlug, rfl⟩
      · exact .inl kept
      · exact .inr ⟨isNow, id, request, inquiry, isRequest, isSlug, isPhase, given⟩
    · cases result <;> rfl
    · cases result <;> rfl
  · cases taken

/-- A move changes the phase of its request only. -/
theorem pageStepView_of_move {move : PageMove} (isRequest : before.requests[id]? = some request)
    (taken : before.move calendar chrono id request move request.phase = some after)
    : PageStepView calendar chrono before after := by
  obtain ⟨middle, phase, keeps, stepped, rfl⟩ := phaseStep_of_move isRequest taken
  refine ⟨fun other found isFound => ?_, keeps.cache, keeps.ttl, keeps.now.ge⟩
  rcases of_getElem?_setPhase isFound with same | ⟨rfl, former, isFormer, sameSlug, isPhase⟩
  · exact .inl (keeps.requests ▸ same)
  · rw [keeps.requests] at isFormer
    cases isRequest.symm.trans isFormer
    refine .inr (.inr ⟨request, isRequest, sameSlug, ?_⟩)
    rw [isPhase, ← sameSlug]
    exact stepped

theorem pageStepView_of_step (taken : pageStep calendar chrono before action = some after)
    : PageStepView calendar chrono before after := by
  cases action with
  | alter store =>
      cases taken
      exact ⟨fun _ _ => .inl, fun _ _ => .inl, rfl, le_rfl⟩
  | tick passed =>
      cases taken
      exact ⟨fun _ _ => .inl, fun _ _ => .inl, rfl, Nat.le_add_right ..⟩
  | arrive ipAddress slug =>
      cases taken
      refine ⟨fun id request found => ?_, fun _ _ => .inl, rfl, le_rfl⟩
      rcases lt_or_ge id before.requests.length with older | new
      · rw [List.getElem?_append_left older] at found
        exact .inl found
      · refine .inr (.inl ⟨List.getElem?_eq_none new, ?_⟩)
        rw [List.getElem?_append_right new] at found
        cases List.mem_singleton.mp (List.mem_of_getElem? found)
        rfl
  | request id move =>
      obtain ⟨request, isRequest, moved⟩ := Option.bind_eq_some_iff.mp taken
      exact pageStepView_of_move isRequest moved

------------------------------------------------------------
-- Where pages come from
------------------------------------------------------------

/-- A request fetches what it renders under a slug. -/
def RendersAt (id : Nat) (slug : String) (server : PageServer) : Prop :=
  ∃ (request : PageRequest) (inquiry : PageInquiry (Except ApiError PublicStatusPageResponse)),
    server.requests[id]? = some request ∧ request.slug = slug ∧ request.phase = .fetching inquiry

/-- The answers that the states of a stretch have given. -/
def knownIn (calendar : SessionCalendar) (stretch : List PageServer) : Known PageQuery :=
  fun asked answer => ∃ server ∈ stretch, server.store.answer calendar asked = answer

/-- One request rendered the body in a stretch of a run, from answers of that stretch. -/
structure RenderedIn (calendar : SessionCalendar) (chrono : Rfc3339) (stretch : List PageServer)
    (slug : String) (body : PublicStatusPageResponse)
    : Prop where
  renderer : ∃ id, ∀ server ∈ stretch, RendersAt id slug server
  gives : (getPublicStatusPage chrono slug).Gives (knownIn calendar stretch) (.ok body)

/-- What a request fetches goes on from answers of a stretch that has lasted until now. -/
structure FetchesSince (calendar : SessionCalendar) (chrono : Rfc3339) (current : PageServer)
    (stretch : List PageServer) (id : Nat) (slug : String)
    (inquiry : PageInquiry (Except ApiError PublicStatusPageResponse))
    : Prop where
  renderer : ∀ server ∈ current :: stretch, RendersAt id slug server
  gives
    : ∀ known : Known PageQuery,
        (∀ server ∈ stretch, ∀ {Result : Type} (asked : PageQuery Result),
          known asked (server.store.answer calendar asked))
        → ∀ result,
            inquiry.Gives known result → (getPublicStatusPage chrono slug).Gives known result

/-- What a run has fetched and cached goes back to answers of its states. -/
structure PagesFounded (calendar : SessionCalendar) (chrono : Rfc3339) (current : PageServer)
    (past : List PageServer)
    : Prop where
  fetching
    : ∀ (id : Nat) (request : PageRequest)
        (inquiry : PageInquiry (Except ApiError PublicStatusPageResponse)),
        current.requests[id]? = some request
        → request.phase = .fetching inquiry
        → ∃ stretch,
            stretch <+: past
            ∧ FetchesSince calendar chrono current stretch id request.slug inquiry
  cached
    : ∀ (slug : String) (entry : StatusPageCacheEntry),
        current.cache.inner.peek slug = some entry
        → ∃ last stretch,
            last :: stretch <:+: past
            ∧ last.now = entry.cachedAt
            ∧ RenderedIn calendar chrono (last :: stretch) slug entry.bytes
  ttl : current.cache.ttl = .fromSecs 30
  clock : ∀ server ∈ past, server.now ≤ current.now

theorem pagesFounded_of_starts (starts : server.Starts)
    : PagesFounded calendar chrono server [] where
  fetching id request inquiry found _ := by
    rw [starts.requests] at found
    cases found
  cached slug entry found := by
    rw [starts.cache] at found
    cases found
  ttl := by rw [starts.cache]; rfl
  clock _ member := by cases member

/-- What is fetched after a step was fetched before, or starts now. -/
theorem fetching_of_view {current next : PageServer} {past : List PageServer}
    {inquiry : PageInquiry (Except ApiError PublicStatusPageResponse)}
    (founded : PagesFounded calendar chrono current past)
    (view : PageStepView calendar chrono current next) (found : next.requests[id]? = some request)
    (isPhase : request.phase = .fetching inquiry)
    : ∃ stretch,
        stretch <+: current :: past
        ∧ FetchesSince calendar chrono next stretch id request.slug inquiry := by
  have renders : RendersAt id request.slug next := ⟨request, inquiry, found, rfl, isPhase⟩
  rcases view.requests id request found with
    same | ⟨_, isArrived⟩ | ⟨former, isFormer, isSlug, stepped⟩
  · obtain ⟨stretch, before, since⟩ := founded.fetching id request inquiry same isPhase
    refine ⟨current :: stretch, (List.prefix_cons_inj _).mpr before, ?_, fun known isKnown => ?_⟩
    · exact List.forall_mem_cons.mpr ⟨renders, since.renderer⟩
    · exact since.gives known (List.forall_mem_cons.mp isKnown).2
  · rw [isPhase] at isArrived
    cases isArrived
  · rw [isPhase] at stepped
    generalize isFormerPhase : former.phase = formerPhase at stepped
    cases stepped with
    | miss =>
        refine ⟨[], List.nil_prefix, ?_, fun known _ result gives => gives⟩
        exact List.forall_mem_singleton.mpr renders
    | @advanced earlier _ turn advanced =>
        obtain ⟨stretch, before, since⟩ := founded.fetching id former earlier isFormer isFormerPhase
        rw [isSlug] at since
        refine ⟨current :: stretch, (List.prefix_cons_inj _).mpr before, ?_, ?_⟩
        · exact List.forall_mem_cons.mpr ⟨renders, since.renderer⟩
        · intro known isKnown result gives
          obtain ⟨now, earlierKnown⟩ := List.forall_mem_cons.mp isKnown
          exact since.gives known earlierKnown result (Inquiry.gives_of_advance now advanced gives)

/-- A request that has its body has rendered it until now. -/
theorem renderedIn_of_given {current : PageServer} {past : List PageServer}
    {inquiry : PageInquiry (Except ApiError PublicStatusPageResponse)}
    (founded : PagesFounded calendar chrono current past)
    (found : current.requests[id]? = some request) (isPhase : request.phase = .fetching inquiry)
    (given : inquiry.given = some (.ok body))
    : ∃ stretch,
        current :: stretch <:+: current :: past
        ∧ RenderedIn calendar chrono (current :: stretch) request.slug body := by
  obtain ⟨stretch, before, since⟩ := founded.fetching id request inquiry found isPhase
  refine ⟨stretch, ((List.prefix_cons_inj _).mpr before).isInfix, ⟨id, since.renderer⟩, ?_⟩
  refine since.gives _ (fun server member _ asked => ?_) _ ?_
  · exact ⟨server, List.mem_cons_of_mem _ member, rfl⟩
  · rw [Inquiry.given_eq_some.mp given]
    exact rfl

theorem pagesFounded_step {current next : PageServer} {past : List PageServer}
    (founded : PagesFounded calendar chrono current past)
    (taken : pageStep calendar chrono current action = some next)
    : PagesFounded calendar chrono next (current :: past) := by
  have view := pageStepView_of_step taken
  refine ⟨fun id request inquiry => fetching_of_view founded view, fun slug entry found => ?_,
    view.ttl.trans founded.ttl, ?_⟩
  · rcases view.cache slug entry found with
      kept | ⟨isNow, id, request, inquiry, isRequest, rfl, isPhase, given⟩
    · obtain ⟨last, stretch, within, isLast, rendered⟩ := founded.cached slug entry kept
      exact ⟨last, stretch, List.infix_cons within, isLast, rendered⟩
    · obtain ⟨stretch, within, rendered⟩ := renderedIn_of_given founded isRequest isPhase given
      exact ⟨current, stretch, within, isNow.symm, rendered⟩
  · refine List.forall_mem_cons.mpr ⟨view.now, fun server member => ?_⟩
    exact (founded.clock server member).trans view.now

theorem pagesFounded_of_history {current : PageServer} {past : List PageServer}
    (run : History (pageStep calendar chrono) PageServer.Starts (current :: past))
    : PagesFounded calendar chrono current past :=
  run.invariant _ (fun _ => pagesFounded_of_starts) fun _ _ _ _ => pagesFounded_step

------------------------------------------------------------
-- What is served
------------------------------------------------------------

/-- A request is answered with a page. -/
structure AnswersPage (before after : PageServer) (id : Nat) (slug : String)
    (body : PublicStatusPageResponse)
    : Prop where
  waiting : ∀ request answer, before.requests[id]? = some request → request.phase ≠ .answered answer
  answered
    : ∃ request : PageRequest,
        after.requests[id]? = some request
        ∧ request.slug = slug
        ∧ request.phase = .answered (.page body)

/-- A page that is enabled under its slug. -/
def Published (slug : String) (server : PageServer) : Prop :=
  ∃ page, StatusPageTables.getBySlug server.store.tables slug = some page ∧ page.isEnabled = true

/-- A body shows what was fetched for an enabled page. -/
theorem fetched_of_gives {known : Known PageQuery}
    (gives : (getPublicStatusPage chrono slug).Gives known (.ok body))
    : ∃ (page : Sites.SiteStatusPage) (site : Site) (data : PageData),
        known (.getBySlug slug) (some page)
        ∧ page.isEnabled = true
        ∧ (fetchPage page site).Gives known data
        ∧ data.response chrono = body := by
  unfold getPublicStatusPage at gives
  obtain ⟨found, isFound, later⟩ := Inquiry.gives_bind.mp gives
  cases isEnabled : found.filter (·.isEnabled) with
  | none =>
      rw [isEnabled] at later
      cases Inquiry.gives_pure.mp later
  | some page =>
      rw [isEnabled] at later
      obtain ⟨rfl, enabled⟩ := Option.filter_eq_some_iff.mp isEnabled
      obtain ⟨site, isSite, last⟩ := Inquiry.gives_bind.mp later
      cases site with
      | none => cases Inquiry.gives_pure.mp last
      | some site =>
          obtain ⟨data, fetched, rendered⟩ := Inquiry.gives_bind.mp last
          exact ⟨page, site, data, isFound, enabled, fetched,
            Except.ok.inj (Inquiry.gives_pure.mp rendered)⟩

/-- What was fetched, besides the monitors and their figures. -/
structure Fetched (known : Known PageQuery) (page : Sites.SiteStatusPage) (site : Site)
    (data : PageData)
    : Prop where
  statusPage : data.statusPage = page
  openIncidents
    : (incidentPage site.id .opened).Gives known data.openIncidents
  resolvedIncidents : (incidentPage site.id .resolved).Gives known data.resolvedIncidents
  figures : page.showUptimePercentages = false → data.figures = none

theorem fetched_of_fetchPage {known : Known PageQuery} {page : Sites.SiteStatusPage} {site : Site}
    {data : PageData} (gives : (fetchPage page site).Gives known data)
    : Fetched known page site data := by
  simp only [fetchPage, Inquiry.gives_bind, Inquiry.gives_pure, Inquiry.gives_both] at gives
  obtain ⟨_, _, _, ⟨opened, resolved, isOpened, isResolved, rfl⟩, figures, isFigures, _, _, rfl⟩ :=
    gives
  refine ⟨rfl, isOpened, isResolved, fun hidden => ?_⟩
  unfold shownFigures at isFigures
  rw [hidden] at isFigures
  exact (Inquiry.gives_pure.mp isFigures).symm

/-- The answers of some state of a stretch published the page. -/
theorem RenderedIn.published {stretch : List PageServer}
    (rendered : RenderedIn calendar chrono stretch slug body)
    : (∃ server ∈ stretch, Published slug server) ∧ body.slug = slug := by
  obtain ⟨page, site, data, ⟨server, member, isPage⟩, enabled, fetched, rfl⟩ :=
    fetched_of_gives rendered.gives
  have found : server.store.tables.pages.rows.find? (fun page => page.slug = slug) = some page :=
    isPage
  have same : page.slug = slug := by simpa using List.find?_some found
  have isSlug : data.statusPage.slug = page.slug :=
    congrArg _ (fetched_of_fetchPage fetched).statusPage
  exact ⟨⟨server, member, page, isPage, enabled⟩, isSlug.trans same⟩

/-- A request is answered with what one request rendered in a stretch of the run that has ended less
than thirty seconds ago.
-/
theorem renderedIn_of_answers
    (run : History (pageStep calendar chrono) PageServer.Starts history)
    (passes : Passes history before after older) (answers : AnswersPage before after id slug body)
    : ∃ last stretch,
        last :: stretch <:+: before :: older
        ∧ before.now < last.now + 30000000000
        ∧ RenderedIn calendar chrono (last :: stretch) slug body := by
  have founded := pagesFounded_of_history (run.upTo_passes passes)
  obtain ⟨action, taken⟩ := run.step_passes passes
  obtain ⟨request, found, rfl, isPhase⟩ := answers.answered
  rcases (pageStepView_of_step taken).requests id request found with
    same | ⟨_, isArrived⟩ | ⟨former, isFormer, isSlug, stepped⟩
  · exact absurd isPhase (answers.waiting request _ same)
  · rw [isPhase] at isArrived
    cases isArrived
  · generalize isFormerPhase : former.phase = formerPhase at stepped
    generalize isNext : request.phase = nextPhase at stepped
    cases stepped with
    | refused | admitted | miss | advanced | failed =>
        rw [isPhase] at isNext
        cases isNext
    | @hit entry isCached fresh =>
        rw [isPhase] at isNext
        cases isNext
        obtain ⟨last, stretch, within, isLast, rendered⟩ := founded.cached _ entry isCached
        refine ⟨last, stretch, List.infix_cons within, ?_, rendered⟩
        rw [founded.ttl] at fresh
        have notOver := mt (le_durationSince_iff (by decide)).mpr fresh.not_ge
        rw [isLast]
        exact lt_of_not_ge notOver
    | @finished inquiry result given =>
        rw [isPhase] at isNext
        cases result with
        | error error => cases isNext
        | ok body =>
            cases isNext
            obtain ⟨stretch, within, rendered⟩ :=
              renderedIn_of_given founded isFormer isFormerPhase given
            rw [isSlug] at rendered
            exact ⟨before, stretch, within, Nat.lt_add_of_pos_right (by decide), rendered⟩

------------------------------------------------------------
-- Undisturbed requests
------------------------------------------------------------

/-- The tables and the clocks stay as they are. -/
def KeepsStore (before : PageServer) (_action : PageAction) (after : PageServer) : Prop :=
  after.store = before.store

/-- A request is still about to be answered with a result, or has been, or a query has failed. -/
def HeadsFor (calendar : SessionCalendar) (id : Nat)
    (result : Except ApiError PublicStatusPageResponse) (server : PageServer)
    : Prop :=
  ∃ request : PageRequest,
    server.requests[id]? = some request
    ∧ ((∃ inquiry,
          request.phase = .fetching inquiry
          ∧ inquiry.eval (server.store.answer calendar) = result)
      ∨ request.phase = .answered (.of result)
      ∨ request.phase = .answered (.failed (.internal internalServerErrorMessage)))

/-- Requests are not forgotten. -/
theorem exists_request_of_step (taken : pageStep calendar chrono before action = some after)
    (found : before.requests[id]? = some request)
    : ∃ later, after.requests[id]? = some later := by
  have longer : before.requests.length ≤ after.requests.length := by
    cases action with
    | alter store | tick passed =>
        cases taken
        exact le_rfl
    | arrive ipAddress slug =>
        cases taken
        simp
    | request other move =>
        obtain ⟨request, isRequest, moved⟩ := Option.bind_eq_some_iff.mp taken
        obtain ⟨middle, phase, keeps, _, rfl⟩ := phaseStep_of_move isRequest moved
        simp [PageServer.setPhase, keeps.requests]
  obtain ⟨within, _⟩ := List.getElem?_eq_some_iff.mp found
  exact ⟨_, List.getElem?_eq_getElem (within.trans_le longer)⟩

theorem headsFor_step {result : Except ApiError PublicStatusPageResponse}
    (heads : HeadsFor calendar id result before)
    (taken : pageStep calendar chrono before action = some after)
    (quiet : KeepsStore before action after)
    : HeadsFor calendar id result after := by
  obtain ⟨request, found, heading⟩ := heads
  obtain ⟨later, isLater⟩ := exists_request_of_step taken found
  refine ⟨later, isLater, ?_⟩
  rw [quiet]
  rcases (pageStepView_of_step taken).requests id later isLater with
    same | ⟨missing, _⟩ | ⟨former, isFormer, _, stepped⟩
  · cases found.symm.trans same
    exact heading
  · cases found.symm.trans missing
  · cases found.symm.trans isFormer
    rcases heading with ⟨inquiry, isPhase, isResult⟩ | isPhase | isPhase
    · rw [isPhase] at stepped
      generalize later.phase = nextPhase at stepped
      cases stepped with
      | advanced advanced =>
          exact .inl ⟨_, rfl, (Inquiry.eval_advance advanced).trans isResult⟩
      | failed => exact .inr (.inr rfl)
      | finished given =>
          obtain rfl := Inquiry.given_eq_some.mp given
          exact .inr (.inl (by rw [← isResult]; rfl))
    · rw [isPhase] at stepped
      cases stepped
    · rw [isPhase] at stepped
      cases stepped

end AlonSentinel.System
