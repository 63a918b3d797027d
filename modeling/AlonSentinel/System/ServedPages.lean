import AlonSentinel.System.CursorPagination
import AlonSentinel.System.PublicPages

/-! What visitors of public status pages get: pages that were true a moment ago, none that has been
switched off, the current page while nothing changes, and an answer after finitely many steps.
-/

namespace AlonSentinel.System

open Api
open ConcurrentQueries
open Domain
open Relation
open StdTime
open TransitionSystem

variable {calendar : SessionCalendar} {chrono : Rfc3339} {server before after cut : PageServer}
  {action : PageAction} {id : Nat} {request : PageRequest} {slug : String}
  {body : PublicStatusPageResponse} {history newer older earlier : List PageServer}
  {inquiry moved : PageInquiry (Except ApiError PublicStatusPageResponse)}

------------------------------------------------------------
-- A small server
------------------------------------------------------------

/-- The page of the one site. -/
def shopPage (isEnabled : Bool) (id : Int) : Sites.SiteStatusPage where
  id := id
  siteId := 1
  isEnabled := isEnabled
  slug := "shop"
  pageTitle := none
  showMonitorDetails := true
  showUptimePercentages := true

def smallPages (isEnabled : Bool) : PageStore where
  tables :=
    { db := smallHistory
      pages := .insert .empty (shopPage isEnabled) fun _ => rfl }
  databaseNow := 0
  serverNow := 0

def smallPageServer : PageServer where
  store := smallPages true
  limiter := .new 60 (.fromSecs 60)
  cache := .new 256 (Nat.succ_pos 255) (.fromSecs 30)
  now := 0
  requests := []

theorem smallPageServer_starts : smallPageServer.Starts := ⟨rfl, rfl, rfl⟩

abbrev smallPageStep := pageStep (.utc toString) smallChrono

/-- The server after these actions. -/
def pageServerAfter (actions : List PageAction) : PageServer :=
  (run smallPageStep smallPageServer actions).getD smallPageServer

/-- A visitor of the page is let in and finds nothing in the cache. -/
def firstVisit : List PageAction :=
  [.arrive "10.0.0.1" "shop", .request 0 .checkRate, .request 0 .lookUp]

def visitRequest : PageRequest where
  ipAddress := "10.0.0.1"
  slug := "shop"
  phase := .fetching (getPublicStatusPage smallChrono "shop")

theorem run_firstVisit
    : run smallPageStep smallPageServer firstVisit = some (pageServerAfter firstVisit) :=
  rfl

theorem firstVisit_request : (pageServerAfter firstVisit).requests[0]? = some visitRequest := rfl

/-- The page of the tables as they are. -/
def currentPage : Except ApiError PublicStatusPageResponse :=
  (getPublicStatusPage smallChrono "shop").eval ((smallPages true).answer (.utc toString))

------------------------------------------------------------
-- Undisturbed requests
------------------------------------------------------------

theorem getElem?_setPhase_self (phase : PagePhase) (found : server.requests[id]? = some request)
    : (server.setPhase id phase).requests[id]? = some { request with phase } := by
  unfold PageServer.setPhase
  rw [List.getElem?_modify_eq, found]
  rfl

/-- A request is advanced as its inquiry is, and answered with its result. Witness: induction over
the turns.
-/
theorem exists_run_answered {turns : List Turn}
    {result : Except ApiError PublicStatusPageResponse}
    (found : server.requests[id]? = some request) (isPhase : request.phase = .fetching inquiry)
    (advanced
      : run (fun inquiry turn => inquiry.advance (server.store.answer calendar) turn) inquiry turns
        = some (.give result))
    : ∃ (moves : List PageMove) (after : PageServer) (final : PageRequest),
        run (pageStep calendar chrono) server (moves.map (.request id)) = some after
        ∧ after.requests[id]? = some final
        ∧ final.slug = request.slug
        ∧ final.phase = .answered (.of result) := by
  induction turns generalizing server request inquiry with
  | nil =>
      cases advanced
      have kept : (server.keep request.slug result).requests[id]? = some request := by
        cases result with
        | error error | ok body => exact found
      refine ⟨[.finish], _, _, ?_, getElem?_setPhase_self (.answered (.of result)) kept, rfl, rfl⟩
      refine Option.bind_eq_some_iff.mpr ⟨_, Option.bind_eq_some_iff.mpr ⟨request, found, ?_⟩, rfl⟩
      rw [isPhase]
      rfl
  | cons turn rest ih =>
      obtain ⟨next, first, later⟩ := Option.bind_eq_some_iff.mp advanced
      obtain ⟨moves, after, final, ran, isFinal⟩ :=
        ih (getElem?_setPhase_self (.fetching next) found) rfl later
      refine ⟨.advance turn :: moves, after, final, ?_, isFinal⟩
      refine Option.bind_eq_some_iff.mpr ⟨_, ?_, ran⟩
      refine Option.bind_eq_some_iff.mpr ⟨request, found, ?_⟩
      rw [isPhase]
      exact congrArg (Option.map _) first

/-- While the tables and the clocks stay as they are, a request is answered as if all its queries
were answered at once, whatever their order and whatever other requests do; it can be, and otherwise
a query has failed.
-/
theorem undisturbedPage_isCurrent (calendar : SessionCalendar) (chrono : Rfc3339)
    (found : server.requests[id]? = some request) (isPhase : request.phase = .fetching inquiry)
    : (∀ (later : PageServer) (final : PageRequest) (answer : PageAnswer),
        ReflTransGen (NextWhere (pageStep calendar chrono) KeepsStore) server later
        → later.requests[id]? = some final
        → final.phase = .answered answer
        → answer = .of (inquiry.eval (server.store.answer calendar))
          ∨ answer = .failed (.internal internalServerErrorMessage))
      ∧ ∃ (moves : List PageMove) (later : PageServer) (final : PageRequest),
          run (pageStep calendar chrono) server (moves.map (.request id)) = some later
          ∧ later.requests[id]? = some final
          ∧ final.phase = .answered (.of (inquiry.eval (server.store.answer calendar))) := by
  constructor
  · intro later final answer path isFinal isAnswered
    have heads
        : HeadsFor calendar id (inquiry.eval (server.store.answer calendar)) later :=
      kept_along (HeadsFor calendar id _) (fun _ _ _ => headsFor_step)
        ⟨request, found, .inl ⟨inquiry, isPhase, rfl⟩⟩ path
    obtain ⟨same, isSame, heading⟩ := heads
    cases isFinal.symm.trans isSame
    rcases heading with ⟨open?, isOpen, _⟩ | isResult | isFailed
    · rw [isAnswered] at isOpen
      cases isOpen
    · rw [isAnswered] at isResult
      exact .inl (PagePhase.answered.inj isResult)
    · rw [isAnswered] at isFailed
      exact .inr (PagePhase.answered.inj isFailed)
  · obtain ⟨turns, finishes⟩ := Inquiry.exists_run (server.store.answer calendar) inquiry
    obtain ⟨moves, later, final, ran, isFinal, _, isAnswered⟩ :=
      exists_run_answered found isPhase finishes
    exact ⟨moves, later, final, ran, isFinal, isAnswered⟩

theorem currentPage_ok : ∃ body, currentPage = .ok body ∧ body.overallStatus = .unknown := by
  have shown : currentPage.toOption.map (·.overallStatus) = some .unknown := by decide +kernel
  cases isPage : currentPage with
  | error error =>
      rw [isPage] at shown
      cases shown
  | ok body =>
      rw [isPage] at shown
      exact ⟨body, rfl, Option.some.inj shown⟩

/-- Nothing was checked yet for the page of the one monitor. -/
theorem undisturbedPage_firstVisit
    : ∃ (moves : List PageMove) (later : PageServer) (final : PageRequest)
        (body : PublicStatusPageResponse),
        run smallPageStep (pageServerAfter firstVisit) (moves.map (.request 0)) = some later
        ∧ later.requests[0]? = some final
        ∧ final.phase = .answered (.page body)
        ∧ body.overallStatus = .unknown := by
  obtain ⟨body, isPage, unknown⟩ := currentPage_ok
  obtain ⟨moves, later, final, ran, found, isPhase⟩ :=
    (undisturbedPage_isCurrent (.utc toString) smallChrono firstVisit_request rfl).2
  refine ⟨moves, later, final, body, ran, found, isPhase.trans ?_, unknown⟩
  exact congrArg (fun result => PagePhase.answered (.of result)) isPage

------------------------------------------------------------
-- Freshness
------------------------------------------------------------

/-- What is answered has been answered at some step of the run. -/
theorem exists_answersPage {past : List PageServer}
    (run : History (pageStep calendar chrono) PageServer.Starts (server :: past))
    (found : server.requests[id]? = some request) (isSlug : request.slug = slug)
    (isPhase : request.phase = .answered (.page body))
    : ∃ before after older,
        Passes (server :: past) before after older ∧ AnswersPage before after id slug body := by
  refine run.origin
    (fun server body =>
      ∃ request : PageRequest,
        server.requests[id]? = some request
        ∧ request.slug = slug
        ∧ request.phase = .answered (.page body))
    (fun before after body => AnswersPage before after id slug body) ?_ ?_
    ⟨request, found, isSlug, isPhase⟩
  · rintro state starts ⟨request, found, _⟩
    rw [starts.requests] at found
    cases found
  · rintro before action after _ taken ⟨request, found, rfl, isPhase⟩
    rcases (pageStepView_of_step taken).requests id request found with
      same | ⟨_, isArrived⟩ | ⟨former, isFormer, _, stepped⟩
    · exact .inl ⟨request, same, rfl, isPhase⟩
    · rw [isPhase] at isArrived
      cases isArrived
    · refine .inr ⟨fun other answer isOther isAnswered => ?_, request, found, rfl, isPhase⟩
      cases isFormer.symm.trans isOther
      rw [isAnswered] at stepped
      cases stepped

/-- The first visitor of the page is answered with it. -/
theorem exists_firstAnswer
    : ∃ (history : List PageServer) (before after : PageServer) (older : List PageServer)
        (body : PublicStatusPageResponse),
        History smallPageStep PageServer.Starts history
        ∧ Passes history before after older
        ∧ AnswersPage before after 0 "shop" body := by
  obtain ⟨body, isPage, _⟩ := currentPage_ok
  obtain ⟨turns, finishes⟩ :=
    Inquiry.exists_run ((smallPages true).answer (.utc toString))
      (getPublicStatusPage smallChrono "shop")
  obtain ⟨moves, later, final, ran, found, isSlug, isPhase⟩ :=
    exists_run_answered firstVisit_request rfl finishes
  have reached : Reachable smallPageStep PageServer.Starts later :=
    (Reachable.of_run smallPageServer_starts run_firstVisit).path (path_of_run ran)
  obtain ⟨past, run⟩ := reached.history
  have isAnswered : final.phase = .answered (.page body) :=
    isPhase.trans (congrArg (fun result => PagePhase.answered (.of result)) isPage)
  obtain ⟨before, after, older, passes, answers⟩ := exists_answersPage run found isSlug isAnswered
  exact ⟨_, before, after, older, body, run, passes, answers⟩

/-- Whoever is answered with a page gets what one request rendered in a stretch of the run that
ended less than thirty seconds ago, from answers of that stretch, with the page enabled in it.
-/
theorem servedPage_wasRendered
    (run : History (pageStep calendar chrono) PageServer.Starts history)
    (passes : Passes history before after older) (answers : AnswersPage before after id slug body)
    : ∃ last stretch,
        last :: stretch <:+: before :: older
        ∧ before.now < last.now + 30000000000
        ∧ (∃ renderer, ∀ server ∈ last :: stretch, RendersAt renderer slug server)
        ∧ (getPublicStatusPage chrono slug).Gives (knownIn calendar (last :: stretch)) (.ok body)
        ∧ (∃ server ∈ last :: stretch, Published slug server)
        ∧ body.slug = slug := by
  obtain ⟨last, stretch, within, fresh, rendered⟩ := renderedIn_of_answers run passes answers
  exact ⟨last, stretch, within, fresh, rendered.renderer, rendered.gives, rendered.published⟩

theorem servedPage_firstVisit
    : ∃ (before after last : PageServer) (older stretch : List PageServer)
        (body : PublicStatusPageResponse),
        AnswersPage before after 0 "shop" body
        ∧ last :: stretch <:+: before :: older
        ∧ before.now < last.now + 30000000000
        ∧ body.slug = "shop" := by
  obtain ⟨history, before, after, older, body, run, passes, answers⟩ := exists_firstAnswer
  obtain ⟨last, stretch, within, fresh, _, _, _, isSlug⟩ :=
    servedPage_wasRendered run passes answers
  exact ⟨before, after, last, older, stretch, body, answers, within, fresh, isSlug⟩

/-- The clock does not go back in a run. -/
theorem now_le_of_history (run : History (pageStep calendar chrono) PageServer.Starts history)
    (isHistory : history = newer ++ cut :: older)
    : ∀ server ∈ older, server.now ≤ cut.now := by
  subst isHistory
  exact (pagesFounded_of_history run.upTo).clock

/-- From a moment on, a page is not published, and no request is rendering it at that moment. Thirty
seconds later nobody is answered with it any more.
-/
theorem unpublishedPage_goesDark
    (run : History (pageStep calendar chrono) PageServer.Starts history)
    (isHistory : history = newer ++ cut :: earlier)
    (unpublished : ∀ server ∈ newer, ¬Published slug server)
    (idle : ∀ id, ¬RendersAt id slug cut) (passes : Passes history before after older)
    (late : cut.now + 30000000000 ≤ before.now)
    : ¬AnswersPage before after id slug body := by
  intro answers
  obtain ⟨last, stretch, within, fresh, rendered⟩ := renderedIn_of_answers run passes answers
  have isLater : cut.now < last.now := Nat.lt_of_add_lt_add_right (late.trans_lt fresh)
  have inHistory : last :: stretch <:+: newer ++ cut :: earlier :=
    isHistory ▸ within.trans passes.suffix.isInfix
  rcases infix_of_split inHistory with through | afterwards | beforehand
  · obtain ⟨renderer, renders⟩ := rendered.renderer
    exact idle renderer (renders cut through)
  · obtain ⟨⟨server, member, published⟩, _⟩ := rendered.published
    exact unpublished server (afterwards.subset member) published
  · have notLater := now_le_of_history run isHistory last (beforehand.subset List.mem_cons_self)
    exact isLater.not_ge notLater

/-- The page is switched off, and visited for the first time thirty seconds later. -/
def switchedOff : PageServer := { smallPageServer with store := smallPages false }

def lateServer : PageServer := { switchedOff with now := 30000000000 }

def lateArrival : PageServer :=
  { lateServer with
    requests := [{ ipAddress := "10.0.0.1", slug := "shop", phase := .arrived }] }

/-- The states of that run, the last one first. -/
def darkHistory : List PageServer := [lateArrival, lateServer, switchedOff, smallPageServer]

theorem darkHistory_isHistory : History smallPageStep PageServer.Starts darkHistory := by
  have switches : smallPageStep smallPageServer (.alter (smallPages false)) = some switchedOff :=
    rfl
  have waits : smallPageStep switchedOff (.tick 30000000000) = some lateServer := rfl
  have arrives : smallPageStep lateServer (.arrive "10.0.0.1" "shop") = some lateArrival := rfl
  exact .next (.next (.next (.start smallPageServer_starts) switches) waits) arrives

theorem switchedOff_unpublished (now : Instant) (requests : List PageRequest)
    : ¬Published "shop" { switchedOff with now, requests } := by
  rintro ⟨page, found, enabled⟩
  have isPage : shopPage false 1 = page := Option.some.inj found
  rw [← isPage] at enabled
  cases enabled

theorem unpublishedPage_darkHistory
    : ¬∃ body, AnswersPage lateServer lateArrival 0 "shop" body := by
  rintro ⟨body, answers⟩
  have split : darkHistory = [lateArrival, lateServer] ++ switchedOff :: [smallPageServer] := rfl
  have passes : Passes darkHistory lateServer lateArrival [switchedOff, smallPageServer] :=
    ⟨[], rfl⟩
  refine unpublishedPage_goesDark darkHistory_isHistory split ?_ ?_ passes le_rfl answers
  · intro server member
    rcases List.mem_pair.mp member with rfl | rfl
    · exact switchedOff_unpublished _ _
    · exact switchedOff_unpublished _ _
  · rintro id ⟨request, inquiry, found, _⟩
    cases found

------------------------------------------------------------
-- Termination
------------------------------------------------------------

/-- One phase of a request comes after another, at whatever server. -/
def PhaseFollows (after before : PagePhase) : Prop :=
  ∃ (calendar : SessionCalendar) (chrono : Rfc3339) (server : PageServer) (slug : String),
    PhaseStep calendar chrono server slug before after

theorem acc_answered (answer : PageAnswer) : Acc PhaseFollows (.answered answer) :=
  .intro _ fun _ ⟨_, _, _, _, stepped⟩ => by cases stepped

/-- What is fetched ends, as its inquiry does. -/
theorem acc_fetching (inquiry : PageInquiry (Except ApiError PublicStatusPageResponse))
    : Acc PhaseFollows (.fetching inquiry) := by
  induction Inquiry.acc_follows inquiry with
  | intro inquiry _ ih =>
      refine .intro _ fun after ⟨calendar, _, server, _, stepped⟩ => ?_
      cases stepped with
      | advanced advanced => exact ih _ ⟨server.store.answer calendar, _, advanced⟩
      | failed | finished given => exact acc_answered _

/-- Every phase comes to an end. -/
theorem acc_phase (phase : PagePhase) : Acc PhaseFollows phase := by
  have accAdmitted : Acc PhaseFollows .admitted := by
    refine .intro _ fun after ⟨_, _, _, _, stepped⟩ => ?_
    cases stepped with
    | hit found fresh => exact acc_answered _
    | miss => exact acc_fetching _
  cases phase with
  | arrived =>
      refine .intro _ fun after ⟨_, _, _, _, stepped⟩ => ?_
      cases stepped with
      | refused => exact acc_answered _
      | admitted => exact accAdmitted
  | admitted => exact accAdmitted
  | fetching inquiry => exact acc_fetching inquiry
  | answered answer => exact acc_answered answer

/-- A step of somebody else leaves a request as it is. -/
theorem getElem?_of_other (taken : pageStep calendar chrono before action = some after)
    (foreign : ∀ move, action ≠ .request id move) (found : before.requests[id]? = some request)
    : after.requests[id]? = some request := by
  cases action with
  | alter store | tick passed =>
      cases taken
      exact found
  | arrive ipAddress slug =>
      cases taken
      exact (List.getElem?_append_left (List.getElem?_eq_some_iff.mp found).1).trans found
  | request other move =>
      obtain ⟨former, isFormer, moved⟩ := Option.bind_eq_some_iff.mp taken
      obtain ⟨middle, phase, keeps, _, rfl⟩ := phaseStep_of_move isFormer moved
      have different : other ≠ id := fun same => foreign move (same ▸ rfl)
      simp [PageServer.setPhase, keeps.requests, found, different]

/-- A step of a request takes it to the phase that follows. -/
theorem phaseFollows_of_request {move : PageMove}
    (taken : pageStep calendar chrono before (.request id move) = some after)
    : ∃ former later : PageRequest,
        before.requests[id]? = some former
        ∧ after.requests[id]? = some later
        ∧ PhaseFollows later.phase former.phase := by
  obtain ⟨former, isFormer, moved⟩ := Option.bind_eq_some_iff.mp taken
  obtain ⟨middle, phase, keeps, stepped, rfl⟩ := phaseStep_of_move isFormer moved
  have isMiddle : middle.requests[id]? = some former := keeps.requests ▸ isFormer
  exact ⟨former, _, isFormer, getElem?_setPhase_self phase isMiddle, calendar, chrono, before, _,
    stepped⟩

/-- The phase of a request that has arrived. -/
def phaseOf (id : Nat) (server : PageServer) : PagePhase :=
  (server.requests[id]?.map (·.phase)).getD .arrived

theorem phaseOf_eq (found : server.requests[id]? = some request)
    : phaseOf id server = request.phase := by
  unfold phaseOf
  rw [found]
  rfl

/-- In a run that goes on forever a request moves finitely often, whatever happens to the tables and
the clocks and whatever the others do.
-/
theorem pageRequest_ends {servers : ℕ → PageServer} {actions : ℕ → PageAction}
    (run
      : ∀ time,
          pageStep calendar chrono (servers time) (actions time) = some (servers (time + 1)))
    (id : Nat)
    : {time | ∃ move, actions time = .request id move}.Finite := by
  by_cases some : ∃ time move, actions time = .request id move
  · obtain ⟨start, move, isMove⟩ := some
    have arrived : ∀ time, ∃ request, (servers (start + time)).requests[id]? = some request := by
      intro time
      induction time with
      | zero =>
          obtain ⟨former, _, isFormer, _⟩ := phaseFollows_of_request (isMove ▸ run start)
          exact ⟨former, isFormer⟩
      | succ time earlier =>
          obtain ⟨request, found⟩ := earlier
          exact exists_request_of_step (run (start + time)) found
    have later : {time | ∃ move, actions (start + time) = .request id move}.Finite := by
      refine finite_moves (fun time => phaseOf id (servers (start + time))) (acc_phase _)
        (fun time moves => ?_) fun time stays => ?_
      · obtain ⟨move, isMove⟩ := moves
        obtain ⟨former, next, isFormer, isNext, follows⟩ :=
          phaseFollows_of_request (isMove ▸ run (start + time))
        rw [phaseOf_eq isFormer]
        exact (phaseOf_eq isNext).symm ▸ follows
      · obtain ⟨request, found⟩ := arrived time
        have kept :=
          getElem?_of_other (run (start + time)) (fun move isMove => stays ⟨move, isMove⟩) found
        rw [phaseOf_eq found]
        exact phaseOf_eq kept
    refine ((Set.finite_lt_nat start).union (later.image (start + ·))).subset ?_
    intro time moves
    rcases lt_or_ge time start with before | after
    · exact .inl before
    · have reached : start + (time - start) = time := Nat.add_sub_of_le after
      refine .inr ⟨time - start, ?_, reached⟩
      change ∃ move, actions (start + (time - start)) = .request id move
      rw [reached]
      exact moves
  · have none : {time | ∃ move, actions time = .request id move} = ∅ :=
      Set.eq_empty_of_forall_notMem fun time moves => some ⟨time, moves⟩
    rw [none]
    exact Set.finite_empty

/-- A visitor is let in, and nothing else happens from then on. -/
def endlessActions : ℕ → PageAction
  | 0 => .arrive "10.0.0.1" "shop"
  | 1 => .request 0 .checkRate
  | _ + 2 => .tick 1

def endlessServers : ℕ → PageServer
  | 0 => smallPageServer
  | 1 => pageServerAfter (firstVisit.take 1)
  | time + 2 => { pageServerAfter (firstVisit.take 2) with now := time }

theorem endlessServers_run (time : ℕ)
    : smallPageStep (endlessServers time) (endlessActions time)
      = some (endlessServers (time + 1)) := by
  match time with
  | 0 | 1 | _ + 2 => rfl

theorem pageRequest_ends_endless
    : {time | ∃ move, endlessActions time = .request 0 move}.Finite :=
  pageRequest_ends endlessServers_run 0

end AlonSentinel.System
