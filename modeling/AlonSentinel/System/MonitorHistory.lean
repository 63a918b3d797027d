import Mathlib.Data.List.Chain
import AlonSentinel.System.World
import AlonSentinel.System.ApiEffects

/-! What the committed checks of one monitor say about its incidents and its events. The
statements are about a list of commits in the order in which they were made.
-/

namespace AlonSentinel.System

open Domain
open Notifications
open Worker

/-- The outcome of the newest commit. -/
def lastOutcome (commits : List CommittedCheck) : Option Bool :=
  commits.getLast?.map (·.check.isSuccess)

@[simp] theorem lastOutcome_concat (commits : List CommittedCheck) (commit : CommittedCheck)
    : lastOutcome (commits ++ [commit]) = some commit.check.isSuccess := by
  simp [lastOutcome]

------------------------------------------------------------
-- Events
------------------------------------------------------------

/-- Every commit determined its event from the commit before it. -/
def EventsDetermined (commits : List CommittedCheck) : Prop :=
  ∀ before commit after,
    commits = before ++ commit :: after
    → commit.eventType = determineEventType (lastOutcome before) commit.check.isSuccess

theorem eventsDetermined_nil : EventsDetermined [] := by
  intro before commit after split
  simp at split

/-- A list extended by one element splits at that element or inside the list. -/
theorem concat_eq_split {α : Type*} {items before after : List α} {last item : α}
    (split : items ++ [last] = before ++ item :: after)
    : (before = items ∧ item = last ∧ after = [])
      ∨ ∃ rest, after = rest ++ [last] ∧ items = before ++ item :: rest := by
  rcases List.eq_nil_or_concat after with rfl | ⟨rest, final, rfl⟩
  · have parts := List.append_inj' split rfl
    exact .inl ⟨parts.1.symm, (List.cons.inj parts.2).1.symm, rfl⟩
  · have whole : items ++ [last] = (before ++ item :: rest) ++ [final] := by
      simpa using split
    have parts := List.append_inj' whole rfl
    have same : last = final := (List.cons.inj parts.2).1
    exact .inr ⟨rest, by rw [same, List.concat_eq_append], parts.1⟩

/-- A further commit that determines its event from the newest one. -/
theorem EventsDetermined.concat {commits : List CommittedCheck} {commit : CommittedCheck}
    (determined : EventsDetermined commits)
    (next : commit.eventType = determineEventType (lastOutcome commits) commit.check.isSuccess)
    : EventsDetermined (commits ++ [commit]) := by
  intro before other after split
  rcases concat_eq_split split with ⟨rfl, rfl, _⟩ | ⟨rest, _, inside⟩
  · exact next
  · exact determined before other rest inside

theorem EventsDetermined.init {commits : List CommittedCheck} {commit : CommittedCheck}
    (determined : EventsDetermined (commits ++ [commit]))
    : EventsDetermined commits := by
  intro before other after split
  exact determined before other (after ++ [commit]) (by rw [split]; simp)

/-- The events that commits determined. -/
def eventsOf (commits : List CommittedCheck) : List NotificationEventType :=
  commits.filterMap (·.eventType)

theorem eventsOf_concat (commits : List CommittedCheck) (commit : CommittedCheck)
    : eventsOf (commits ++ [commit]) = eventsOf commits ++ commit.eventType.toList := by
  cases event : commit.eventType <;> simp [eventsOf, event]

/-- Failures and recoveries take turns, a failure first. -/
structure Alternating (events : List NotificationEventType) : Prop where
  turns : events.IsChain (· ≠ ·)
  first : ∀ event ∈ events.head?, event = .failure

/-- An event that the newest one calls for keeps the turns. -/
theorem Alternating.concat {events : List NotificationEventType} {event : NotificationEventType}
    (alternating : Alternating events)
    (next : event = .failure ↔ events.getLast? ≠ some .failure)
    : Alternating (events ++ [event]) := by
  refine ⟨alternating.turns.append (List.isChain_singleton _) ?_, ?_⟩
  · intro newest isNewest added isAdded same
    cases Option.some.inj isAdded
    subst same
    cases newest with
    | failure => exact next.mp rfl isNewest
    | recovery =>
        have calls : events.getLast? ≠ some .failure := by
          rw [Option.mem_def.mp isNewest]
          exact nofun
        cases next.mpr calls
  · intro head isHead
    cases events with
    | nil =>
        cases Option.some.inj isHead
        exact next.mpr nofun
    | cons opening rest => exact alternating.first head isHead

/-- Determined events alternate, and the newest one is a failure exactly while the newest
outcome is. By induction over the commits, newest last.
-/
theorem EventsDetermined.alternating {commits : List CommittedCheck}
    (determined : EventsDetermined commits)
    : Alternating (eventsOf commits)
      ∧ ((eventsOf commits).getLast? = some .failure ↔ lastOutcome commits = some false) := by
  induction commits using List.reverseRecOn with
  | nil => exact ⟨⟨List.isChain_nil, nofun⟩, nofun, nofun⟩
  | append_singleton commits commit ih =>
      obtain ⟨alternating, newest⟩ := ih determined.init
      have event := determined commits commit [] rfl
      rw [eventsOf_concat, lastOutcome_concat, event]
      generalize lastOutcome commits = last at newest
      cases determines : determineEventType last commit.check.isSuccess with
      | none =>
          have same : commit.check.isSuccess = last.getD true := by
            by_contra differs
            have isSome := (determineEventType_isSome last _).mpr differs
            rw [determines] at isSome
            cases isSome
          rw [Option.toList_none, List.append_nil, same]
          refine ⟨alternating, newest.trans ?_⟩
          rcases last with _ | _ | _ <;> decide
      | some event =>
          have differs := (determineEventType_isSome last commit.check.isSuccess).mp
            (by rw [determines]; rfl)
          have isFailure
              : event = .failure ↔ commit.check.isSuccess = false ∧ last ≠ some false := by
            rw [← determineEventType_eq_failure, determines, Option.some.injEq]
          rw [Option.toList_some, List.getLast?_concat]
          refine ⟨alternating.concat ?_, ?_⟩
          · rw [isFailure, Ne, Ne, newest]
            revert differs
            rcases last with _ | _ | _ <;> cases commit.check.isSuccess <;> decide
          · rw [Option.some.injEq, isFailure]
            revert differs
            rcases last with _ | _ | _ <;> cases commit.check.isSuccess <;> decide

------------------------------------------------------------
-- Records of incidents
------------------------------------------------------------

/-- The `opened_*` columns of an incident are those of a check. -/
structure OpenedBy (opening : SiteMonitorCheck) (incident : SiteMonitorIncident) : Prop where
  checkId : incident.openedCheckId = some opening.id
  openedAt : incident.openedAt = opening.checkedAt
  statusCode : incident.openedStatusCode = opening.statusCode
  failureReason : incident.openedFailureReason = opening.failureReason
  errorMessage : incident.openedErrorMessage = opening.errorMessage

/-- An open incident records the failures since the one that opened it: all commits from the
opening one on fail, and the incident counts them and carries the time of the newest. -/
def OpenRecord (commits : List CommittedCheck) (incident : SiteMonitorIncident) : Prop :=
  ∃ before opening failures,
    commits = before ++ opening :: failures
    ∧ (∀ commit ∈ opening :: failures, commit.check.isSuccess = false)
    ∧ OpenedBy opening.check incident
    ∧ incident.failureCount = (opening :: failures).length
    ∧ (opening :: failures).getLast?.map (·.check.checkedAt) = some incident.lastCheckedAt

/-- A recovered incident records the failures up to the success that resolved it: that success
is the first one after the opening failure. -/
def RecoveredRecord (commits : List CommittedCheck) (incident : SiteMonitorIncident) : Prop :=
  ∃ before opening failures resolving after,
    commits = before ++ opening :: failures ++ resolving :: after
    ∧ (∀ commit ∈ opening :: failures, commit.check.isSuccess = false)
    ∧ resolving.check.isSuccess = true
    ∧ OpenedBy opening.check incident
    ∧ incident.resolvedCheckId = some resolving.check.id
    ∧ incident.resolvedAt = some resolving.check.checkedAt
    ∧ incident.openedAt ≤ resolving.check.checkedAt

/-- The newest commit of a monitor with an open incident is a failure. -/
theorem OpenRecord.lastOutcome {commits : List CommittedCheck} {incident : SiteMonitorIncident}
    (record : OpenRecord commits incident)
    : lastOutcome commits = some false := by
  obtain ⟨before, opening, failures, rfl, failing, _⟩ := record
  cases newest : (opening :: failures).getLast? with
  | none => simp at newest
  | some commit =>
      have fails := failing commit (List.mem_of_getLast? newest)
      rw [System.lastOutcome, List.getLast?_append, newest]
      simp [fails]

/-- The incident that a failing commit opens. -/
theorem OpenRecord.opened {commits : List CommittedCheck} {commit : CommittedCheck}
    {siteMonitor : SiteMonitor} {now : Timestamp} {id : Int}
    (fails : commit.check.isSuccess = false)
    : OpenRecord (commits ++ [commit])
        ((openIncidentParams siteMonitor commit.check).row now siteMonitor.siteId id) := by
  refine ⟨commits, commit, [], rfl, ?_, ⟨rfl, rfl, rfl, rfl, rfl⟩, rfl, rfl⟩
  intro other member
  exact List.mem_singleton.mp member ▸ fails

/-- A further failing commit that the incident counts. -/
theorem OpenRecord.failed {commits : List CommittedCheck} {commit : CommittedCheck}
    {incident : SiteMonitorIncident} {now : Timestamp}
    (record : OpenRecord commits incident) (fails : commit.check.isSuccess = false)
    : OpenRecord (commits ++ [commit])
        (incident.withFailure now (incidentFailureParams commit.check)) := by
  obtain ⟨before, opening, failures, rfl, failing, opened, count, _⟩ := record
  refine ⟨before, opening, failures ++ [commit], by simp, ?_, ?_, ?_, ?_⟩
  · intro other member
    rcases List.mem_append.mp (List.cons_append ▸ member) with old | new
    · exact failing other old
    · exact List.mem_singleton.mp new ▸ fails
  · exact ⟨opened.checkId, opened.openedAt, opened.statusCode, opened.failureReason,
      opened.errorMessage⟩
  · change incident.failureCount + 1 = _
    rw [count]
    simp
  · rw [← List.cons_append, List.getLast?_concat]
    rfl

/-- A successful commit that resolves the incident. -/
theorem OpenRecord.recovered {commits : List CommittedCheck} {commit : CommittedCheck}
    {incident : SiteMonitorIncident} {now : Timestamp}
    (record : OpenRecord commits incident) (succeeds : commit.check.isSuccess = true)
    (later : ∀ earlier ∈ commits, earlier.check.checkedAt ≤ commit.check.checkedAt)
    : RecoveredRecord (commits ++ [commit])
        (incident.withRecovery now (resolveIncidentParams commit.check)) := by
  obtain ⟨before, opening, failures, rfl, failing, opened, _⟩ := record
  refine ⟨before, opening, failures, commit, [], rfl, failing, succeeds, ?_, rfl, rfl, ?_⟩
  · exact ⟨opened.checkId, opened.openedAt, opened.statusCode, opened.failureReason,
      opened.errorMessage⟩
  · change incident.openedAt ≤ commit.check.checkedAt
    rw [opened.openedAt]
    exact later opening (by simp)

/-- A record of a recovery stays one when more commits follow. -/
theorem RecoveredRecord.concat {commits : List CommittedCheck} {incident : SiteMonitorIncident}
    (record : RecoveredRecord commits incident) (commit : CommittedCheck)
    : RecoveredRecord (commits ++ [commit]) incident := by
  obtain ⟨before, opening, failures, resolving, after, rfl, rest⟩ := record
  exact ⟨before, opening, failures, resolving, after ++ [commit], by simp, rest⟩

------------------------------------------------------------
-- Incidents under the statements of the API
------------------------------------------------------------

section Touched

variable {now : Timestamp} {incident touched : SiteMonitorIncident}

/-- The API moves no incident to another monitor and gives none another id. -/
theorem IncidentTouched.identity (touch : IncidentTouched now incident touched)
    : touched.id = incident.id ∧ touched.siteMonitorId = incident.siteMonitorId
      ∧ touched.siteId = incident.siteId := by
  cases touch with
  | same | acknowledged _ _ _ | resolved _ _ => exact ⟨rfl, rfl, rfl⟩

/-- The API opens no incident. -/
theorem IncidentTouched.wasOpen (touch : IncidentTouched now incident touched)
    (isOpen : touched.isOpen = true)
    : incident.isOpen = true := by
  cases touch with
  | same | acknowledged _ _ _ => exact isOpen
  | resolved wasOpen _ => exact wasOpen

/-- An incident left open keeps its record. -/
theorem IncidentTouched.openRecord {commits : List CommittedCheck}
    (touch : IncidentTouched now incident touched) (isOpen : touched.isOpen = true)
    (record : OpenRecord commits incident)
    : OpenRecord commits touched := by
  cases touch with
  | same => exact record
  | acknowledged _ _ _ =>
      obtain ⟨before, opening, failures, whole, failing, opened, counted⟩ := record
      exact ⟨before, opening, failures, whole, failing,
        ⟨opened.checkId, opened.openedAt, opened.statusCode, opened.failureReason,
          opened.errorMessage⟩, counted⟩
  | resolved _ _ => cases isOpen

/-- The API resolves nothing as recovered, and keeps the record of what was. -/
theorem IncidentTouched.recoveredRecord {commits : List CommittedCheck}
    (touch : IncidentTouched now incident touched)
    (recovered : touched.resolvedReason = some .recovered)
    (record : incident.resolvedReason = some .recovered → RecoveredRecord commits incident)
    : RecoveredRecord commits touched := by
  cases touch with
  | same => exact record recovered
  | acknowledged _ _ _ =>
      obtain ⟨before, opening, failures, resolving, after, whole, failing, succeeds, opened,
        resolved⟩ := record recovered
      exact ⟨before, opening, failures, resolving, after, whole, failing, succeeds,
        ⟨opened.checkId, opened.openedAt, opened.statusCode, opened.failureReason,
          opened.errorMessage⟩, resolved⟩
  | resolved _ notRecovered => exact absurd (Option.some.inj recovered) notRecovered

end Touched

end AlonSentinel.System
