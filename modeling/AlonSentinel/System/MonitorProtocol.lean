import Mathlib.Data.List.Pairwise
import AlonSentinel.Foundation.LeaseProtocol
import AlonSentinel.System.MonitorHistory
import AlonSentinel.Worker.SaveEffect

/-! One monitor as a resource under a lease. Its view is the outcome of the last check, its
incidents and its committed checks; a worker's job is what it holds. Claims keep the jobs of
owners accurate, and the incidents agree with the history of committed checks.
-/

namespace AlonSentinel.System

open Domain
open LeaseProtocol
open Notifications
open Worker

/-- The columns of a monitor that its history and its schedule depend on. -/
structure MonitorFacts where
  siteId : Int
  checkIntervalSeconds : Int
  lastCheckedAt : Option Timestamp
  lastIsSuccess : Option Bool

def monitorFacts (monitor : SiteMonitor) : MonitorFacts where
  siteId := monitor.siteId
  checkIntervalSeconds := monitor.checkIntervalSeconds
  lastCheckedAt := monitor.lastCheckedAt
  lastIsSuccess := monitor.lastIsSuccess

/-- A monitor with its incidents and its commits, oldest first. -/
structure MonitorView where
  monitor : Option MonitorFacts
  incidents : List SiteMonitorIncident
  commits : List CommittedCheck

/-- What the lookup of a save finds in a view. -/
def MonitorView.lookup (view : MonitorView) (siteMonitor : SiteMonitor)
    : Option SiteMonitorIncident :=
  if siteMonitor.lastIsSuccess = some false then view.incidents.find? (·.isOpen) else none

/-- A check interval has passed since the last check that the row knows of. -/
def DueAt (monitor : SiteMonitor) (instant : Timestamp) : Prop :=
  ∀ checkedAt,
    monitor.lastCheckedAt = some checkedAt
    → checkedAt + seconds monitor.checkIntervalSeconds ≤ instant

/-- When the save transaction of a job began, if it has. -/
def CheckPhase.startedAt : CheckPhase → Option Timestamp
  | .saving startedAt _ | .deciding startedAt _ _ => some startedAt
  | .claimed | .checking => none

------------------------------------------------------------
-- Rules
------------------------------------------------------------

/-- What a claim returns. -/
structure MonitorTaken (siteMonitorId : Int) (now : Timestamp) (view : MonitorView)
    (job : CheckJob)
    : Prop where
  monitorId : job.monitorId = siteMonitorId
  facts : view.monitor = some (monitorFacts job.siteMonitor)
  due : DueAt job.siteMonitor now
  phase : job.phase = .claimed

/-- The progress of a job between its claim and its commit. -/
inductive CheckProgress (now : Timestamp) (view : MonitorView) (job : CheckJob)
    : CheckJob → Prop
  | checking : CheckProgress now view job { job with phase := .checking }
  | saving (completed : CompletedMonitorCheck)
    : CheckProgress now view job { job with phase := .saving now completed }
  | deciding {startedAt : Timestamp} {completed : CompletedMonitorCheck}
      (began : job.phase = .saving startedAt completed)
    : CheckProgress now view job
        { job with phase := .deciding startedAt completed (view.lookup job.siteMonitor) }

/-- A commit of a job, with the record it leaves. -/
structure MonitorSettled (view : MonitorView) (job : CheckJob) (commit : CommittedCheck)
    (settled : MonitorView)
    : Prop where
  decided
    : ∃ completed found nextId,
        job.phase = .deciding commit.check.checkedAt completed found
        ∧ commit.check.isSuccess = completed.result.isSuccess
        ∧ IncidentsManaged commit.check.checkedAt job.siteMonitor commit.check found nextId
            view.incidents settled.incidents
  claimNumber : commit.claimNumber = job.claimNumber
  eventType
    : commit.eventType
      = determineEventType job.siteMonitor.lastIsSuccess commit.check.isSuccess
  monitor
    : settled.monitor
      = view.monitor.map fun facts =>
          { facts with
            lastCheckedAt := some commit.check.checkedAt
            lastIsSuccess := some commit.check.isSuccess }
  commits : settled.commits = view.commits ++ [commit]

/-- What the API may do to the columns of a monitor. -/
inductive FactsTouched : Option MonitorFacts → Option MonitorFacts → Prop
  | absent : FactsTouched none none
  | created {facts : MonitorFacts} (neverChecked : facts.lastIsSuccess = none)
    : FactsTouched none (some facts)
  | kept {before after : MonitorFacts} (siteId : after.siteId = before.siteId)
      (lastCheckedAt : after.lastCheckedAt = before.lastCheckedAt)
      (lastIsSuccess : after.lastIsSuccess = before.lastIsSuccess)
    : FactsTouched (some before) (some after)

/-- What the API may do to a view. -/
structure MonitorBackground (now : Timestamp) (view changed : MonitorView) : Prop where
  monitor : FactsTouched view.monitor changed.monitor
  incidents
    : ∃ change : SiteMonitorIncident → SiteMonitorIncident,
        (∀ incident, IncidentTouched now incident (change incident))
        ∧ changed.incidents = view.incidents.map change
  commits : changed.commits = view.commits

/-- Claims, saves and API statements as rules on one monitor. -/
def monitorRules (siteMonitorId : Int) : Rules Timestamp CheckJob MonitorView where
  take := MonitorTaken siteMonitorId
  work := CheckProgress
  settle := fun _ view job settled => ∃ commit, MonitorSettled view job commit settled
  background := MonitorBackground

------------------------------------------------------------
-- Invariants
------------------------------------------------------------

/-- At most one of two incidents is open. -/
def NotBothOpen (first second : SiteMonitorIncident) : Prop :=
  ¬(first.isOpen = true ∧ second.isOpen = true)

instance : Std.Symm NotBothOpen := ⟨fun _ _ apart both => apart both.symm⟩

/-- The incidents of a monitor agree with its commits. -/
structure IncidentHistory (siteMonitorId : Int) (commits : List CommittedCheck)
    (incidents : List SiteMonitorIncident)
    : Prop where
  own : ∀ incident ∈ incidents, incident.siteMonitorId = siteMonitorId
  oneOpen : incidents.Pairwise NotBothOpen
  openRecord : ∀ incident ∈ incidents, incident.isOpen = true → OpenRecord commits incident
  recoveredRecord
    : ∀ incident ∈ incidents,
        incident.resolvedReason = some .recovered
        → RecoveredRecord commits incident

/-- The incidents and the row of a monitor agree with its commits. -/
structure MonitorHistory (siteMonitorId : Int) (now : Timestamp) (view : MonitorView)
    : Prop where
  incidents : IncidentHistory siteMonitorId view.commits view.incidents
  absent : view.monitor = none → view.commits = []
  site
    : ∀ incident ∈ view.incidents,
        ∃ facts, view.monitor = some facts ∧ facts.siteId = incident.siteId
  outcome : ∀ facts, view.monitor = some facts → facts.lastIsSuccess = lastOutcome view.commits
  checkedAt
    : ∀ facts commit,
        view.monitor = some facts
        → view.commits.getLast? = some commit
        → facts.lastCheckedAt = some commit.check.checkedAt
  past : ∀ commit ∈ view.commits, commit.check.checkedAt ≤ now
  events : EventsDetermined view.commits

/-- What an owner's job knows is still true: the row it was given agrees with the stored one,
its transaction began after every commit, and no incident is open but the one it found. -/
structure JobAccurate (siteMonitorId : Int) (now : Timestamp) (view : MonitorView)
    (job : CheckJob)
    : Prop where
  monitorId : job.monitorId = siteMonitorId
  facts
    : ∃ facts,
        view.monitor = some facts
        ∧ facts.siteId = job.siteMonitor.siteId
        ∧ facts.lastCheckedAt = job.siteMonitor.lastCheckedAt
        ∧ facts.lastIsSuccess = job.siteMonitor.lastIsSuccess
  due : DueAt job.siteMonitor now
  started
    : ∀ startedAt,
        job.phase.startedAt = some startedAt
        → startedAt ≤ now
          ∧ DueAt job.siteMonitor startedAt
          ∧ ∀ commit ∈ view.commits, commit.check.checkedAt ≤ startedAt
  found
    : ∀ startedAt completed found,
        job.phase = .deciding startedAt completed found
        → ∀ incident ∈ view.incidents,
            incident.isOpen = true
            → ∃ known, found = some known ∧ known.id = incident.id

------------------------------------------------------------
-- Incidents
------------------------------------------------------------

section Incidents

variable {siteMonitorId : Int} {commits : List CommittedCheck}
  {incidents : List SiteMonitorIncident}

/-- Two open incidents of a monitor are one. -/
theorem IncidentHistory.open_unique (history : IncidentHistory siteMonitorId commits incidents)
    {first second : SiteMonitorIncident} (hf : first ∈ incidents) (hs : second ∈ incidents)
    (firstOpen : first.isOpen = true) (secondOpen : second.isOpen = true)
    : first = second := by
  by_contra different
  exact history.oneOpen.forall hf hs different ⟨firstOpen, secondOpen⟩

/-- A change of every incident that opens none, and for which open and recovered incidents
still have their records. -/
theorem IncidentHistory.map {later : List CommittedCheck}
    {change : SiteMonitorIncident → SiteMonitorIncident}
    (history : IncidentHistory siteMonitorId commits incidents)
    (own : ∀ incident, (change incident).siteMonitorId = incident.siteMonitorId)
    (opensNone : ∀ incident, (change incident).isOpen = true → incident.isOpen = true)
    (openRecord
      : ∀ incident ∈ incidents,
          (change incident).isOpen = true
          → OpenRecord commits incident
          → OpenRecord later (change incident))
    (recoveredRecord
      : ∀ incident ∈ incidents,
          (change incident).resolvedReason = some .recovered
          → RecoveredRecord later (change incident))
    : IncidentHistory siteMonitorId later (incidents.map change) := by
  refine ⟨?_, ?_, ?_, ?_⟩
  · intro changed member
    obtain ⟨incident, stored, rfl⟩ := List.mem_map.mp member
    rw [own]
    exact history.own incident stored
  · refine List.pairwise_map.mpr (history.oneOpen.imp fun apart both => ?_)
    exact apart ⟨opensNone _ both.1, opensNone _ both.2⟩
  · intro changed member isOpen
    obtain ⟨incident, stored, rfl⟩ := List.mem_map.mp member
    have record := history.openRecord incident stored (opensNone incident isOpen)
    exact openRecord incident stored isOpen record
  · intro changed member recovered
    obtain ⟨incident, stored, rfl⟩ := List.mem_map.mp member
    exact recoveredRecord incident stored recovered

/-- API statements keep the agreement. -/
theorem IncidentHistory.touched {now : Timestamp}
    {change : SiteMonitorIncident → SiteMonitorIncident}
    (history : IncidentHistory siteMonitorId commits incidents)
    (touches : ∀ incident, IncidentTouched now incident (change incident))
    : IncidentHistory siteMonitorId commits (incidents.map change) := by
  refine history.map ?_ ?_ ?_ ?_
  · exact fun incident => (touches incident).identity.2.1
  · exact fun incident => (touches incident).wasOpen
  · exact fun incident _ isOpen => (touches incident).openRecord isOpen
  · exact fun incident stored recovered =>
      (touches incident).recoveredRecord recovered (history.recoveredRecord incident stored)

/-- A record of a recovery does not depend on the columns that a failure sets. -/
theorem RecoveredRecord.withFailure {incident : SiteMonitorIncident} {now : Timestamp}
    {params : IncidentFailureParams} (record : RecoveredRecord commits incident)
    : RecoveredRecord commits (incident.withFailure now params) := by
  obtain ⟨before, opening, failures, resolving, after, whole, failing, succeeds, opened,
    resolved⟩ := record
  exact ⟨before, opening, failures, resolving, after, whole, failing, succeeds,
    ⟨opened.checkId, opened.openedAt, opened.statusCode, opened.failureReason,
      opened.errorMessage⟩, resolved⟩

/-- With the open incident at hand, a check after a failure is never without consequence. -/
theorem classifyIncidentAction_found (current : Bool)
    : classifyIncidentAction (some false) current true ≠ .noAction := by
  cases current <;> decide

/-- A save keeps the agreement, if the open incident is the one it found. One case for each
way in which a save leaves the incidents. -/
theorem IncidentHistory.managed {commit : CommittedCheck} {siteMonitor : SiteMonitor}
    {found : Option SiteMonitorIncident} {now : Timestamp} {nextId : Int}
    {after : List SiteMonitorIncident}
    (history : IncidentHistory siteMonitorId commits incidents)
    (own : siteMonitor.id = siteMonitorId)
    (outcome : siteMonitor.lastIsSuccess = lastOutcome commits)
    (knows
      : ∀ incident ∈ incidents,
          incident.isOpen = true
          → ∃ known, found = some known ∧ known.id = incident.id)
    (later : ∀ earlier ∈ commits, earlier.check.checkedAt ≤ commit.check.checkedAt)
    (managed : IncidentsManaged now siteMonitor commit.check found nextId incidents after)
    : IncidentHistory siteMonitorId (commits ++ [commit]) after := by
  have recoveredBefore {incident : SiteMonitorIncident} (stored : incident ∈ incidents)
      (recovered : incident.resolvedReason = some .recovered)
      : RecoveredRecord (commits ++ [commit]) incident :=
    (history.recoveredRecord incident stored recovered).concat commit
  cases managed with
  | opened decided noneOpen =>
      have fails := (classifyIncidentAction_opens.mp decided).1
      have noOpen {incident : SiteMonitorIncident} (stored : incident ∈ incidents)
          : incident.isOpen = false := by
        have unmatched := noneOpen incident stored
        have ofMonitor := (history.own incident stored).trans own.symm
        simpa [SiteMonitorIncident.isOpenFor, ofMonitor] using unmatched
      refine ⟨?_, ?_, ?_, ?_⟩
      · intro incident member
        rcases List.mem_append.mp member with stored | new
        · exact history.own incident stored
        · rw [List.mem_singleton.mp new]
          exact own
      · refine List.pairwise_append.mpr ⟨history.oneOpen, List.pairwise_singleton _ _, ?_⟩
        intro incident stored other _ both
        exact absurd both.1 (Bool.eq_false_iff.mp (noOpen stored))
      · intro incident member isOpen
        rcases List.mem_append.mp member with stored | new
        · exact absurd isOpen (Bool.eq_false_iff.mp (noOpen stored))
        · rw [List.mem_singleton.mp new]
          exact .opened fails
      · intro incident member recovered
        rcases List.mem_append.mp member with stored | new
        · exact recoveredBefore stored recovered
        · rw [List.mem_singleton.mp new] at recovered
          cases recovered
  | updated incident isFound _ fails =>
      refine history.map ?_ ?_ ?_ ?_
      · intro other
        split <;> rfl
      · intro other isOpen
        split at isOpen <;> exact isOpen
      · intro other stored isOpen record
        -- An open incident is the one found, so it is the one that counts the failure.
        split
        · exact record.failed fails
        · next unmatched =>
            rw [if_neg unmatched] at isOpen
            obtain ⟨known, same, hk⟩ := knows other stored isOpen
            cases isFound.symm.trans same
            simp [SiteMonitorIncident.isOpenAt, hk, isOpen] at unmatched
      · intro other stored recovered
        split at recovered
        · next matched =>
            rw [if_pos matched]
            exact (recoveredBefore stored recovered).withFailure
        · next unmatched =>
            rw [if_neg unmatched]
            exact recoveredBefore stored recovered
  | resolved incident isFound _ succeeds =>
      refine history.map ?_ ?_ ?_ ?_
      · intro other
        split <;> rfl
      · intro other isOpen
        split at isOpen
        · cases isOpen
        · exact isOpen
      · intro other stored isOpen record
        split at isOpen
        · cases isOpen
        · next unmatched =>
            obtain ⟨known, same, hk⟩ := knows other stored isOpen
            cases isFound.symm.trans same
            simp [SiteMonitorIncident.isOpenAt, hk, isOpen] at unmatched
      · intro other stored recovered
        split at recovered
        · next matched =>
            have wasOpen := (Bool.and_eq_true_iff.mp matched).2
            rw [if_pos matched]
            exact (history.openRecord other stored wasOpen).recovered succeeds later
        · next unmatched =>
            rw [if_neg unmatched]
            exact recoveredBefore stored recovered
  | unchanged decided =>
      refine ⟨history.own, history.oneOpen, ?_, ?_⟩
      · intro incident stored isOpen
        obtain ⟨known, rfl, _⟩ := knows incident stored isOpen
        have failed := (history.openRecord incident stored isOpen).lastOutcome
        rw [outcome, failed] at decided
        exact absurd decided (classifyIncidentAction_found _)
      · exact fun incident stored => recoveredBefore stored

end Incidents

------------------------------------------------------------
-- Obligations
------------------------------------------------------------

section Obligations

variable {siteMonitorId : Int} {now instant : Timestamp} {view changed : MonitorView}
  {job progressed : CheckJob}

/-- While an incident is open the stored outcome is a failure. -/
theorem MonitorHistory.failed_of_open (history : MonitorHistory siteMonitorId now view)
    {facts : MonitorFacts} (present : view.monitor = some facts)
    {incident : SiteMonitorIncident} (member : incident ∈ view.incidents)
    (isOpen : incident.isOpen = true)
    : facts.lastIsSuccess = some false :=
  (history.outcome facts present).trans
    (history.incidents.openRecord incident member isOpen).lastOutcome

/-- An owner's lookup finds the incident that is open. -/
theorem JobAccurate.lookup (accurate : JobAccurate siteMonitorId now view job)
    (history : MonitorHistory siteMonitorId now view) {incident : SiteMonitorIncident}
    (member : incident ∈ view.incidents) (isOpen : incident.isOpen = true)
    : ∃ known, view.lookup job.siteMonitor = some known ∧ known.id = incident.id := by
  obtain ⟨facts, present, _, _, same⟩ := accurate.facts
  have failed : job.siteMonitor.lastIsSuccess = some false :=
    same.symm.trans (history.failed_of_open present member isOpen)
  rw [MonitorView.lookup, if_pos failed]
  cases found : view.incidents.find? (·.isOpen) with
  | none => exact absurd isOpen (List.find?_eq_none.mp found incident member)
  | some known =>
      have knownOpen : known.isOpen = true := List.find?_some found
      have one :=
        history.incidents.open_unique (List.mem_of_find?_eq_some found) member knownOpen isOpen
      exact ⟨known, rfl, by rw [one]⟩

theorem MonitorHistory.later (history : MonitorHistory siteMonitorId now view)
    (ordered : now ≤ instant)
    : MonitorHistory siteMonitorId instant view :=
  { history with past := fun commit member => le_trans (history.past commit member) ordered }

theorem JobAccurate.later (accurate : JobAccurate siteMonitorId now view job)
    (ordered : now ≤ instant)
    : JobAccurate siteMonitorId instant view job where
  monitorId := accurate.monitorId
  facts := accurate.facts
  due checkedAt known := le_trans (accurate.due checkedAt known) ordered
  started startedAt began := by
    obtain ⟨past, rest⟩ := accurate.started startedAt began
    exact ⟨le_trans past ordered, rest⟩
  found := accurate.found

/-- A claim hands out the row as it is stored. -/
theorem MonitorTaken.accurate (taken : MonitorTaken siteMonitorId now view job)
    : JobAccurate siteMonitorId now view job where
  monitorId := taken.monitorId
  facts := ⟨_, taken.facts, rfl, rfl, rfl⟩
  due := taken.due
  started startedAt began := by rw [taken.phase] at began; cases began
  found startedAt completed found decided := by rw [taken.phase] at decided; cases decided

/-- Progress keeps an owner's job accurate. -/
theorem CheckProgress.accurate (progress : CheckProgress now view job progressed)
    (history : MonitorHistory siteMonitorId now view)
    (accurate : JobAccurate siteMonitorId now view job)
    : JobAccurate siteMonitorId now view progressed := by
  cases progress with
  | checking =>
      refine ⟨accurate.monitorId, accurate.facts, accurate.due, ?_, ?_⟩
      · intro startedAt began
        simp only [CheckPhase.startedAt, reduceCtorEq] at began
      · intro startedAt completed found decided
        simp only [reduceCtorEq] at decided
  | saving completed =>
      refine ⟨accurate.monitorId, accurate.facts, accurate.due, ?_, ?_⟩
      · intro startedAt began
        simp only [CheckPhase.startedAt, Option.some.injEq] at began
        subst began
        exact ⟨le_refl _, accurate.due, history.past⟩
      · intro startedAt completed found decided
        simp only [reduceCtorEq] at decided
  | deciding began =>
      refine ⟨accurate.monitorId, accurate.facts, accurate.due, ?_, ?_⟩
      · intro startedAt same
        exact accurate.started startedAt (by rw [began]; exact same)
      · intro startedAt completed found decided incident member isOpen
        cases decided
        exact accurate.lookup history member isOpen

/-- A commit keeps the incidents in agreement with the history it extends. -/
theorem MonitorSettled.history {commit : CommittedCheck}
    (settled : MonitorSettled view job commit changed)
    (history : MonitorHistory siteMonitorId now view)
    (accurate : JobAccurate siteMonitorId now view job)
    : MonitorHistory siteMonitorId now changed := by
  obtain ⟨completed, found, nextId, decided, success, managed⟩ := settled.decided
  obtain ⟨facts, present, siteId, _, same⟩ := accurate.facts
  obtain ⟨past, _, after⟩ := accurate.started commit.check.checkedAt (by rw [decided]; rfl)
  have outcome : job.siteMonitor.lastIsSuccess = lastOutcome view.commits :=
    same.symm.trans (history.outcome facts present)
  have stored := settled.monitor
  rw [present] at stored
  refine ⟨?_, ?_, ?_, ?_, ?_, ?_, ?_⟩
  · rw [settled.commits]
    exact history.incidents.managed accurate.monitorId outcome
      (accurate.found _ _ _ decided) after managed
  · intro absent
    rw [stored] at absent
    cases absent
  · intro incident member
    refine ⟨_, stored, ?_⟩
    rcases managed.origin member with ⟨prior, wasStored, _, _, sameSite⟩ | ⟨_, newSite⟩
    · obtain ⟨known, wasPresent, site⟩ := history.site prior wasStored
      cases present.symm.trans wasPresent
      exact site.trans sameSite.symm
    · exact siteId.trans newSite.symm
  · intro settledFacts known
    rw [stored] at known
    cases known
    rw [settled.commits, lastOutcome_concat]
  · intro settledFacts newest known last
    rw [stored] at known
    cases known
    rw [settled.commits, List.getLast?_concat] at last
    cases last
    rfl
  · intro other member
    rw [settled.commits] at member
    rcases List.mem_append.mp member with old | new
    · exact history.past other old
    · rw [List.mem_singleton.mp new]
      exact past
  · rw [settled.commits]
    exact history.events.concat (by rw [settled.eventType, outcome])

theorem MonitorBackground.history (background : MonitorBackground now view changed)
    (history : MonitorHistory siteMonitorId now view)
    : MonitorHistory siteMonitorId now changed := by
  obtain ⟨facts, ⟨change, touches, incidents⟩, commits⟩ := background
  have unchanged {kept : MonitorFacts} (present : changed.monitor = some kept)
      : (view.monitor = none ∧ kept.lastIsSuccess = none)
        ∨ ∃ before,
            view.monitor = some before ∧ kept.lastCheckedAt = before.lastCheckedAt
            ∧ kept.lastIsSuccess = before.lastIsSuccess := by
    rw [present] at facts
    generalize view.monitor = stored at facts
    cases facts with
    | created neverChecked => exact .inl ⟨rfl, neverChecked⟩
    | kept _ lastCheckedAt lastIsSuccess => exact .inr ⟨_, rfl, lastCheckedAt, lastIsSuccess⟩
  refine ⟨?_, ?_, ?_, ?_, ?_, ?_, ?_⟩
  · rw [commits, incidents]
    exact history.incidents.touched touches
  · intro absent
    rw [absent] at facts
    have wasAbsent : view.monitor = none := by
      generalize view.monitor = stored at facts
      cases facts
      rfl
    exact commits.trans (history.absent wasAbsent)
  · intro incident member
    rw [incidents] at member
    obtain ⟨prior, wasStored, rfl⟩ := List.mem_map.mp member
    obtain ⟨before, wasPresent, site⟩ := history.site prior wasStored
    rw [wasPresent] at facts
    generalize changed.monitor = stored at facts
    cases facts with
    | kept sameSite _ _ =>
        exact ⟨_, rfl, (sameSite.trans site).trans (touches prior).identity.2.2.symm⟩
  · intro kept present
    rcases unchanged present with ⟨wasAbsent, never⟩ | ⟨before, wasPresent, _, same⟩
    · rw [commits, never, history.absent wasAbsent]
      rfl
    · rw [commits, same, history.outcome before wasPresent]
  · intro kept commit present last
    rw [commits] at last
    rcases unchanged present with ⟨wasAbsent, _⟩ | ⟨before, wasPresent, same, _⟩
    · rw [history.absent wasAbsent] at last
      cases last
    · rw [same]
      exact history.checkedAt before commit wasPresent last
  · rw [commits]
    exact history.past
  · rw [commits]
    exact history.events

theorem MonitorBackground.accurate (background : MonitorBackground now view changed)
    (accurate : JobAccurate siteMonitorId now view job)
    : JobAccurate siteMonitorId now changed job := by
  obtain ⟨factsTouched, ⟨change, touches, incidents⟩, commits⟩ := background
  obtain ⟨facts, present, siteId, lastCheckedAt, lastIsSuccess⟩ := accurate.facts
  refine ⟨accurate.monitorId, ?_, accurate.due, ?_, ?_⟩
  · rw [present] at factsTouched
    generalize changed.monitor = stored at factsTouched
    cases factsTouched with
    | kept sameSite sameTime sameOutcome =>
        exact ⟨_, rfl, sameSite.trans siteId, sameTime.trans lastCheckedAt,
          sameOutcome.trans lastIsSuccess⟩
  · rw [commits]
    exact accurate.started
  · intro startedAt completed found decided touched member isOpen
    rw [incidents] at member
    obtain ⟨incident, stored, rfl⟩ := List.mem_map.mp member
    obtain ⟨known, same, hk⟩ :=
      accurate.found startedAt completed found decided incident stored
        ((touches incident).wasOpen isOpen)
    exact ⟨known, same, hk.trans (touches incident).identity.1.symm⟩

/-- The claim protocol keeps the history of a monitor and the jobs of its owners. -/
theorem monitorRules_sound (siteMonitorId : Int)
    : (monitorRules siteMonitorId).Sound (MonitorHistory siteMonitorId)
        (JobAccurate siteMonitorId) where
  goodLater ordered history := history.later ordered
  accurateLater ordered accurate := accurate.later ordered
  take _ taken := taken.accurate
  work history accurate progress := progress.accurate history accurate
  settle := fun history accurate ⟨_, settled⟩ => settled.history history accurate
  backgroundGood history background := background.history history
  backgroundAccurate _ accurate background := background.accurate accurate

end Obligations

end AlonSentinel.System
