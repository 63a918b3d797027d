import AlonSentinel.Api.HeartbeatUpserts
import AlonSentinel.Foundation.TransitionSystem

/-! Requests that upsert the heartbeat monitor of a site at the same time. Nothing but the lookup
keeps a second monitor out, so it comes in between the lookup of one request and its create.
-/

namespace AlonSentinel.System

open Api
open Domain
open KeyedTable
open Relation
open TransitionSystem

------------------------------------------------------------
-- The system
------------------------------------------------------------

structure HeartbeatUpserts where
  db : Database
  now : Timestamp
  requests : List HeartbeatUpsert

inductive HeartbeatAction where
  | start (siteId : Int) (params : HeartbeatMonitorUpdateParams)
  /-- The next statement of a request. -/
  | act (index : Nat) (heartbeatToken : String)
  /-- The next statement of a request fails, or its connection is closed. -/
  | stop (index : Nat)
  | advanceClock (later : Timestamp)

/-- The request at an index in its next phase. -/
def setUpsertPhase (requests : List HeartbeatUpsert) (index : Nat) (phase : HeartbeatUpsertPhase)
    : List HeartbeatUpsert :=
  requests.modify index fun request => { request with phase }

def stepHeartbeat (state : HeartbeatUpserts) : HeartbeatAction → Option HeartbeatUpserts
  | .start siteId params =>
      some { state with requests := state.requests ++ [⟨siteId, params, .findingSite⟩] }
  | .act index heartbeatToken => do
      let request ← state.requests[index]?
      let (db, phase) ← request.step state.db state.now heartbeatToken
      return { state with db, requests := setUpsertPhase state.requests index phase }
  | .stop index => do
      let request ← state.requests[index]?
      guard !request.phase.isAnswered
      return {
        state with
        requests :=
          setUpsertPhase state.requests index
            (.answered (.error (.internal internalServerErrorMessage))) }
  | .advanceClock later => if state.now ≤ later then some { state with now := later } else none

variable {siteId : Int} {state after start last : HeartbeatUpserts} {action : HeartbeatAction}

------------------------------------------------------------
-- At most one monitor
------------------------------------------------------------

/-- A site has at most one heartbeat monitor, and every request that was answered with a monitor of
the site returned the token that the site uses.
-/
structure OneHeartbeatMonitor (siteId : Int) (state : HeartbeatUpserts) : Prop where
  atMostOne : (heartbeatMonitors state.db siteId).length ≤ 1
  tokenStays
    : ∀ request ∈ state.requests,
        request.siteId = siteId
        → ∀ monitor,
            request.phase = .answered (.ok monitor)
            → ∃ stored,
                getHeartbeatMonitorBySiteId state.db siteId = some stored
                ∧ stored.heartbeatToken = monitor.heartbeatToken

/-- A monitor is created on a site only while it has none. -/
def CreatesFirst (siteId : Int) (state : HeartbeatUpserts) : HeartbeatAction → Prop
  | .act index _ =>
      ∀ request ∈ state.requests[index]?,
        request.siteId = siteId
        → request.phase.isCreating = true
        → (heartbeatMonitors state.db siteId).isEmpty = true
  | _ => True

/-- The ids and tokens returned on a site are those of its one monitor. -/
structure TokensKnown (siteId : Int) (state : HeartbeatUpserts) : Prop where
  atMostOne : (heartbeatTokens state.db siteId).length ≤ 1
  known
    : ∀ request ∈ state.requests,
        request.siteId = siteId
        → ∀ monitor,
            request.phase.monitor? = some monitor
            → (monitor.id, monitor.heartbeatToken) ∈ heartbeatTokens state.db siteId

/-- An admitted step keeps what is known about the tokens. -/
theorem TokensKnown.step (tokens : TokensKnown siteId state)
    (taken : stepHeartbeat state action = some after) (creates : CreatesFirst siteId state action)
    : TokensKnown siteId after := by
  cases action with
  | start onSite params =>
      cases taken
      refine ⟨tokens.atMostOne, fun request member same monitor returned => ?_⟩
      rcases List.mem_append.mp member with before | new
      · exact tokens.known request before same monitor returned
      · obtain rfl := List.mem_singleton.mp new
        cases returned
  | act index heartbeatToken =>
      obtain ⟨request, found, continues⟩ := Option.bind_eq_some_iff.mp taken
      obtain ⟨⟨db, phase⟩, stepped, rest⟩ := Option.bind_eq_some_iff.mp continues
      cases rest
      have isRequest := List.mem_of_getElem? found
      cases HeartbeatUpsert.step_effect stepped with
      | kept same known =>
          constructor
          · rw [same]
            exact tokens.atMostOne
          · intro moved member onSite monitor returned
            rw [same]
            rcases mem_modify member with before | ⟨other, isOther, rfl⟩
            · exact tokens.known moved before onSite monitor returned
            · obtain rfl := Option.some.inj (isOther.symm.trans found)
              rcases known monitor returned with earlier | isStored
              · exact tokens.known other isRequest onSite monitor earlier
              · exact onSite ▸ isStored
      | created monitor isCreating isReturned appended =>
          constructor
          · rw [appended]
            by_cases onSite : request.siteId = siteId
            · have first := creates request found onSite (by rw [isCreating]; rfl)
              have none : heartbeatTokens state.db siteId = [] := by
                rw [heartbeatTokens, List.isEmpty_iff.mp first, List.map_nil]
              rw [none, if_pos onSite]
              exact Nat.le_refl 1
            · rw [if_neg onSite, List.append_nil]
              exact tokens.atMostOne
          · intro moved member onSite other returned
            rw [appended]
            rcases mem_modify member with before | ⟨former, isFormer, rfl⟩
            · exact List.mem_append_left _ (tokens.known moved before onSite other returned)
            · obtain rfl := Option.some.inj (isFormer.symm.trans found)
              obtain rfl := Option.some.inj (isReturned.symm.trans returned)
              rw [if_pos onSite]
              exact List.mem_append_right _ List.mem_cons_self
  | stop index =>
      obtain ⟨request, found, continues⟩ := Option.bind_eq_some_iff.mp taken
      obtain ⟨_, _, rest⟩ := Option.bind_eq_some_iff.mp continues
      cases rest
      refine ⟨tokens.atMostOne, fun moved member same monitor returned => ?_⟩
      rcases mem_modify member with before | ⟨_, _, rfl⟩
      · exact tokens.known moved before same monitor returned
      · cases returned
  | advanceClock later =>
      simp only [stepHeartbeat] at taken
      split at taken
      · cases taken
        exact ⟨tokens.atMostOne, tokens.known⟩
      · cases taken

theorem length_heartbeatTokens (db : Database) (siteId : Int)
    : (heartbeatTokens db siteId).length = (heartbeatMonitors db siteId).length :=
  List.length_map _

/-- The one monitor of a site is the one that its readers take. -/
theorem getHeartbeatMonitorBySiteId_of_tokens {db : Database} {id : Int} {token : Option String}
    (atMostOne : (heartbeatTokens db siteId).length ≤ 1)
    (known : (id, token) ∈ heartbeatTokens db siteId)
    : ∃ stored,
        getHeartbeatMonitorBySiteId db siteId = some stored ∧ stored.heartbeatToken = token := by
  rw [length_heartbeatTokens] at atMostOne
  unfold heartbeatTokens at known
  unfold getHeartbeatMonitorBySiteId
  obtain ⟨stored, member, same⟩ := List.mem_map.mp known
  cases isList : heartbeatMonitors db siteId with
  | nil =>
      rw [isList] at member
      exact absurd member List.not_mem_nil
  | cons first rest =>
      rw [isList] at member atMostOne
      have noOthers := Nat.le_zero.mp (Nat.le_of_succ_le_succ atMostOne)
      obtain rfl := List.eq_nil_of_length_eq_zero noOthers
      obtain rfl := List.mem_singleton.mp member
      exact ⟨stored, rfl, congrArg Prod.snd same⟩

/-- From a site with at most one heartbeat monitor, whatever requests interleave, the site has at
most one, if each create is executed while the site has none.
-/
theorem heartbeatMonitors_atMostOne (atFirst : (heartbeatMonitors start.db siteId).length ≤ 1)
    (noRequests : start.requests = [])
    (steps
      : ReflTransGen
          (NextWhere stepHeartbeat fun state action _ => CreatesFirst siteId state action)
          start last)
    : OneHeartbeatMonitor siteId last := by
  have initial : TokensKnown siteId start := by
    constructor
    · rw [length_heartbeatTokens]
      exact atFirst
    · rw [noRequests]
      exact fun _ member => absurd member List.not_mem_nil
  have tokens : TokensKnown siteId last :=
    kept_along (TokensKnown siteId)
      (fun _ _ _ tokens taken creates => tokens.step taken creates) initial steps
  constructor
  · rw [← length_heartbeatTokens]
    exact tokens.atMostOne
  · intro request member onSite monitor answered
    have known := tokens.known request member onSite monitor (by rw [answered]; rfl)
    exact getHeartbeatMonitorBySiteId_of_tokens tokens.atMostOne known

------------------------------------------------------------
-- A site without monitors
------------------------------------------------------------

instance : Decidable (CreatesFirst siteId state action) :=
  match action with
  | .act index _ =>
      inferInstanceAs (Decidable (∀ request ∈ state.requests[index]?,
        request.siteId = siteId → request.phase.isCreating = true → _))
  | .start _ _ | .stop _ | .advanceClock _ => isTrue trivial

def unmonitoredSite : HeartbeatUpserts where
  db :=
    { Database.empty with
      sites :=
        SerialTable.empty.insert fun id =>
          { id, name := "jobs", baseUrl := "https://jobs.test", isActive := true, createdAt := 0
            updatedAt := 0 } }
  now := 0
  requests := []

/-- Every five minutes, without a grace period. -/
def everyFiveMinutes : HeartbeatMonitorUpdateParams where
  checkIntervalSeconds := 300
  heartbeatGraceSeconds := none
  isActive := true

/-- Two requests for one site, the second one a statement behind the first. -/
def staggeredUpserts : List HeartbeatAction :=
  [.start 1 everyFiveMinutes, .act 0 "a", .act 0 "a", .start 1 everyFiveMinutes, .act 1 "b",
    .act 0 "a", .act 1 "b", .act 1 "b"]

theorem heartbeatMonitors_atMostOne_staggered
    : ∃ last,
        runWhere stepHeartbeat (fun state action _ => CreatesFirst 1 state action) unmonitoredSite
          staggeredUpserts = some last
        ∧ last.requests.length = 2
        ∧ OneHeartbeatMonitor 1 last := by
  have scenario
      : (runWhere stepHeartbeat (fun state action _ => CreatesFirst 1 state action)
          unmonitoredSite staggeredUpserts).any (·.requests.length = 2) = true := by
    decide +kernel
  obtain ⟨last, ran, count⟩ := Option.any_eq_true _ _ |>.mp scenario
  exact ⟨last, ran, of_decide_eq_true count,
    heartbeatMonitors_atMostOne (by decide) rfl (path_of_runWhere ran)⟩

/-- Two requests that look the monitor up before either creates it. -/
def racingUpserts : List HeartbeatAction :=
  [.start 1 everyFiveMinutes, .start 1 everyFiveMinutes, .act 0 "a", .act 0 "a", .act 1 "b",
    .act 1 "b", .act 0 "a", .act 1 "b"]

/-- Both create one, and the site has two. -/
theorem racingUpserts_not_atMostOne
    : ∃ last,
        run stepHeartbeat unmonitoredSite racingUpserts = some last
        ∧ ¬OneHeartbeatMonitor 1 last := by
  have scenario
      : (run stepHeartbeat unmonitoredSite racingUpserts).any
          (fun last => (heartbeatMonitors last.db 1).length = 2) = true := by
    decide +kernel
  obtain ⟨last, ran, two⟩ := Option.any_eq_true _ _ |>.mp scenario
  refine ⟨last, ran, fun one => ?_⟩
  have atMostOne := one.atMostOne
  rw [of_decide_eq_true two] at atMostOne
  exact absurd atMostOne (by decide)

end AlonSentinel.System
